import TenantAccess.Proofs.Isolation.Grants
import TenantAccess.Proofs.Isolation.KeptSites
import TenantAccess.Proofs.Sessions.Effects

/-!
# Finding sites through the caches

While the caches are right about a client, its tree, what lies below its sites and what its grants
make visible are a matter of the tables alone, and finding them out keeps the caches right, whichever
client it is for.

* `tree_cases`, `descendantsOf_cases`: what finding out comes to in each case.
* `MembershipTables.visible`: the visible sites of a grant, read off the tables.
* `tree_servedTo`, `descendantsOf_servedTo`, `visibleTo_servedTo`: what is found for a client.
* `visibleTo_eq_visible`: what is found through caches that are right about all clients.
-/

namespace TenantAccess

/-! ### Finding the visible sites -/

namespace SiteTrees

variable {σ : Type} (platform : Platform σ) {grant : EffectiveGrant}

/-- A grant for a site and what is below it takes the tree of its client. -/
theorem visibleTo_of_group {client : ClientId} {site : SiteId} (hscope : grant.scope = .siteGroup)
    (hclient : grant.clientId = some client) (hsite : grant.siteId = some site) :
    visibleTo platform grant =
      descendantsOf platform client site >>= fun below => pure (.ofGrant grant fun _ => below) := by
  unfold visibleTo
  rw [hscope, hsite, hclient]

/-- Any other grant takes nothing. -/
theorem visibleTo_of_not_group (h : grant.scope = .siteGroup → grant.siteId = none) :
    visibleTo platform grant = pure (.ofGrant grant fun _ => []) := by
  unfold visibleTo
  rcases hscope : grant.scope with _ | _ | _ | _ | _ | _
  case siteGroup => rw [h hscope]
  all_goals rfl

end SiteTrees

namespace MembershipTables

/-- The tree that the stored sites of a client come to. -/
def treeOf (tables : MembershipTables) (client : ClientId) :
    Except SiteTreeError SiteHierarchy :=
  (SiteHierarchy.build (tables.nodesOf client)).mapError (.hierarchy client)

/-- The tree of a client is what is built of its listed sites, with an error that names the
client. -/
theorem treeOf_of_build {tables : MembershipTables} {client : ClientId}
    {built : Except HierarchyError SiteHierarchy}
    (h : SiteHierarchy.build (tables.nodesOf client) = built) :
    tables.treeOf client = built.mapError (.hierarchy client) :=
  congrArg (Except.mapError (SiteTreeError.hierarchy client)) h

/-- The sites that a grant makes visible, read off the tables. -/
def visible (tables : MembershipTables) (grant : EffectiveGrant) :
    Except SiteTreeError VisibleSites :=
  match grant.scope, grant.siteId with
  | .siteGroup, some _ =>
    match grant.clientId with
    | none => .error (.missingClient grant.scope)
    | some client => (tables.treeOf client).map fun tree => .ofGrant grant tree.descendantsOf
  | _, _ => .ok (.ofGrant grant fun _ => [])

/-- Tables that hold the same list the same sites and parents of a client. -/
theorem Same.nodesOf_eq {a b : MembershipTables} (h : a.Same b) (client : ClientId) :
    a.nodesOf client = b.nodesOf client := by
  unfold nodesOf
  rw [h.sitesOf_eq]

variable {tables : MembershipTables} {grant : EffectiveGrant} {client : ClientId} {site : SiteId}

/-- A grant for a site and what is below it takes the tree of its client. -/
theorem visible_of_group (hscope : grant.scope = .siteGroup) (hclient : grant.clientId = some client)
    (hsite : grant.siteId = some site) :
    tables.visible grant =
      (tables.treeOf client).map fun tree => .ofGrant grant tree.descendantsOf := by
  unfold visible
  rw [hscope, hsite, hclient]

/-- What lies below the site is all that the tree is taken for. -/
theorem visible_of_group_eq_descendants (hscope : grant.scope = .siteGroup)
    (hclient : grant.clientId = some client) (hsite : grant.siteId = some site) :
    tables.visible grant =
      ((tables.treeOf client).map (·.descendantsOf site)).map fun below =>
        .ofGrant grant fun _ => below := by
  rw [visible_of_group hscope hclient hsite]
  rcases tables.treeOf client with e | tree
  · rfl
  · unfold VisibleSites.ofGrant
    rw [hscope, hsite]
    rfl

/-- Any other grant takes no tree. -/
theorem visible_of_not_group (h : grant.scope = .siteGroup → grant.siteId = none) :
    tables.visible grant = .ok (.ofGrant grant fun _ => []) := by
  unfold visible
  split
  · rename_i hscope hsite
    rw [h hscope] at hsite
    cases hsite
  · rfl

end MembershipTables

section steps

variable {ρ : Type} (rest : Platform ρ) (client : ClientId) (site : SiteId)
  (s : AccessState (MembershipTables × ρ))

/-- The tree of a client is the one that is kept, or else it is built from the tables and kept if
they come to one. -/
theorem tree_cases :
    (∃ tree, s.sites.tree? client = some tree ∧
      SiteTrees.tree rest.withTables client s = (.ok tree, s)) ∨
    ∃ t, t.world.1.Same s.world.1 ∧ t.sites = s.sites ∧
      ((∃ e, SiteHierarchy.build (s.world.1.nodesOf client) = .error e ∧
          SiteTrees.tree rest.withTables client s = (.error (.hierarchy client e), t)) ∨
        ∃ tree, SiteHierarchy.build (s.world.1.nodesOf client) = .ok tree ∧
          SiteTrees.tree rest.withTables client s =
            (.ok tree, { t with sites := s.sites.keepTree client tree })) := by
  have hget : (get : Task (MembershipTables × ρ) SiteTreeError _) s = (.ok s, s) := rfl
  unfold SiteTrees.tree
  rw [Task.bind_ok hget]
  rcases hkept : s.sites.tree? client with _ | tree
  · let t : AccessState (MembershipTables × ρ) :=
      { s with world := ({ s.world.1 with siteReads := s.world.1.siteReads + 1 }, s.world.2) }
    have hread : (ExceptT.adapt .store (Work.read (rest.withTables.store.sitesFor client)) :
        Task _ SiteTreeError _) s = (.ok (s.world.1.sitesOf client), t) := rfl
    have hnodes : (s.world.1.sitesOf client).map (·.node) = s.world.1.nodesOf client := rfl
    refine .inr ⟨t, ⟨rfl, rfl, rfl⟩, rfl, ?_⟩
    dsimp only
    rw [Task.bind_ok hread, hnodes]
    rcases SiteHierarchy.build (s.world.1.nodesOf client) with e | tree
    · exact .inl ⟨e, rfl, rfl⟩
    · exact .inr ⟨tree, rfl, rfl⟩
  · exact .inl ⟨tree, rfl, rfl⟩

/-- What is kept below a site is what lies below it, and nothing changes. -/
theorem descendantsOf_of_kept {below : List SiteId}
    (hkept : s.sites.descendants? site = some below) :
    SiteTrees.descendantsOf rest.withTables client site s = (.ok below, s) := by
  have hget : (get : Task (MembershipTables × ρ) SiteTreeError _) s = (.ok s, s) := rfl
  unfold SiteTrees.descendantsOf
  rw [Task.bind_ok hget, hkept]
  rfl

/-- Where nothing is kept, what lies below a site is taken from the tree of the client and kept. -/
theorem descendantsOf_of_not_kept (hnone : s.sites.descendants? site = none) :
    (∃ e t, SiteTrees.tree rest.withTables client s = (.error e, t) ∧
      SiteTrees.descendantsOf rest.withTables client site s = (.error e, t)) ∨
    ∃ tree t, SiteTrees.tree rest.withTables client s = (.ok tree, t) ∧
      SiteTrees.descendantsOf rest.withTables client site s =
        (.ok (tree.descendantsOf site),
          { t with sites := t.sites.keepDescendants site (tree.descendantsOf site) }) := by
  have hget : (get : Task (MembershipTables × ρ) SiteTreeError _) s = (.ok s, s) := rfl
  unfold SiteTrees.descendantsOf
  rw [Task.bind_ok hget, hnone]
  rcases htree : SiteTrees.tree rest.withTables client s with ⟨e | tree, t⟩
  · exact .inl ⟨e, t, rfl, Task.bind_error htree⟩
  · exact .inr ⟨tree, t, rfl, Task.bind_ok htree⟩

/-- What lies below a site is what is kept, or else it is taken from the tree of the client and
kept. -/
theorem descendantsOf_cases :
    (∃ below, s.sites.descendants? site = some below ∧
      SiteTrees.descendantsOf rest.withTables client site s = (.ok below, s)) ∨
    (∃ e t, SiteTrees.tree rest.withTables client s = (.error e, t) ∧
      SiteTrees.descendantsOf rest.withTables client site s = (.error e, t)) ∨
    ∃ tree t, SiteTrees.tree rest.withTables client s = (.ok tree, t) ∧
      SiteTrees.descendantsOf rest.withTables client site s =
        (.ok (tree.descendantsOf site),
          { t with sites := t.sites.keepDescendants site (tree.descendantsOf site) }) := by
  rcases hkept : s.sites.descendants? site with _ | below
  · exact .inr (descendantsOf_of_not_kept rest client site s hkept)
  · exact .inl ⟨below, rfl, descendantsOf_of_kept rest client site s hkept⟩

end steps

section reading

variable {ρ : Type} (rest : Platform ρ) {tables : MembershipTables}
  {s : AccessState (MembershipTables × ρ)} {grant : EffectiveGrant} {client asked : ClientId}
  {site : SiteId}

/-- The store holds what the tables hold, and what is kept about the sites of the client is right
about them. -/
structure SitesServedTo (tables : MembershipTables) (client : ClientId)
    (s : AccessState (MembershipTables × ρ)) : Prop where
  stored : s.world.1.Same tables
  kept : s.sites.FaithfulTo tables client

/-- Whichever tree is asked for, what is kept about the client stays right, and its own tree is the
one of the tables. -/
theorem tree_servedTo (h : SitesServedTo tables client s) (asked : ClientId) :
    SitesServedTo tables client (SiteTrees.tree rest.withTables asked s).2 ∧
      (asked = client →
        (SiteTrees.tree rest.withTables asked s).1 = tables.treeOf client) := by
  unfold MembershipTables.treeOf
  rcases tree_cases rest asked s with
    ⟨tree, hkept, htree⟩ | ⟨t, hst, hsites, ⟨e, hbuild, htree⟩ | ⟨tree, hbuild, htree⟩⟩
  · rw [htree]
    refine ⟨h, ?_⟩
    rintro rfl
    rw [h.kept.tree hkept]
    rfl
  · rw [htree]
    rw [h.stored.nodesOf_eq] at hbuild
    refine ⟨⟨hst.trans h.stored, ?_⟩, ?_⟩
    · rw [hsites]
      exact h.kept
    · rintro rfl
      rw [hbuild]
      rfl
  · rw [htree]
    rw [h.stored.nodesOf_eq] at hbuild
    refine ⟨⟨hst.trans h.stored, h.kept.keepTree ?_⟩, ?_⟩
    · rintro rfl
      exact hbuild
    · rintro rfl
      rw [hbuild]
      rfl

/-- Whichever site is asked for with the client that owns it, what is kept about the client stays
right, and what is found below a site of its own lies below that in the tree of the tables. -/
theorem descendantsOf_servedTo (h : SitesServedTo tables client s)
    (howns : tables.Owns asked site) :
    SitesServedTo tables client (SiteTrees.descendantsOf rest.withTables asked site s).2 ∧
      (asked = client → (SiteTrees.descendantsOf rest.withTables asked site s).1 =
        (tables.treeOf client).map (·.descendantsOf site)) := by
  obtain ⟨hserved, houtcome⟩ := tree_servedTo rest h asked
  rcases descendantsOf_cases rest asked site s with
    ⟨below, hkept, hbelow⟩ | ⟨e, t, htree, hbelow⟩ | ⟨tree, t, htree, hbelow⟩
  · rw [hbelow]
    refine ⟨h, ?_⟩
    rintro rfl
    obtain ⟨tree, hbuild, rfl⟩ := h.kept.descendants howns hkept
    rw [MembershipTables.treeOf_of_build hbuild]
    rfl
  · rw [htree] at hserved houtcome
    rw [hbelow]
    refine ⟨hserved, ?_⟩
    intro hasked
    rw [← houtcome hasked]
    rfl
  · rw [htree] at hserved houtcome
    rw [hbelow]
    refine ⟨⟨hserved.stored, hserved.kept.keepDescendants ?_⟩, ?_⟩
    · -- the site is one client's only, so it is the client whose tree was found
      intro howns'
      refine ⟨tree, ?_, rfl⟩
      have htreeOf := houtcome (howns'.unique howns)
      unfold MembershipTables.treeOf at htreeOf
      rcases hbuild : SiteHierarchy.build (tables.nodesOf client) with e | built
      · rw [hbuild] at htreeOf
        cases htreeOf
      · rw [hbuild] at htreeOf
        rw [Except.ok.inj htreeOf]
    · intro hasked
      rw [← houtcome hasked]
      rfl

/-- The caches make no difference to what a grant for no client makes visible. -/
theorem visibleTo_of_no_client (tables : MembershipTables) (hclient : grant.clientId = none)
    (s : AccessState (MembershipTables × ρ)) :
    SiteTrees.visibleTo rest.withTables grant s = (tables.visible grant, s) := by
  unfold SiteTrees.visibleTo MembershipTables.visible
  rw [hclient]
  rcases grant.scope with _ | _ | _ | _ | _ | _ <;> rcases grant.siteId with _ | site <;> rfl

/-- Whichever visible sites are asked for with a site of the client of the grant, what is kept about
the client stays right, and those of its own grants are what the tables make visible. -/
theorem visibleTo_servedTo (h : SitesServedTo tables client s)
    (howns : ∀ asked site, grant.scope = .siteGroup → grant.clientId = some asked →
      grant.siteId = some site → tables.Owns asked site) :
    SitesServedTo tables client (SiteTrees.visibleTo rest.withTables grant s).2 ∧
      ((∀ asked, grant.clientId = some asked → asked = client) →
        (SiteTrees.visibleTo rest.withTables grant s).1 = tables.visible grant) := by
  by_cases hgroup : grant.scope = .siteGroup → grant.siteId = none
  · rw [SiteTrees.visibleTo_of_not_group _ hgroup, MembershipTables.visible_of_not_group hgroup]
    exact ⟨h, fun _ => rfl⟩
  · obtain ⟨hscope, hsome⟩ := Classical.not_imp.mp hgroup
    obtain ⟨site, hsite⟩ := Option.ne_none_iff_exists'.mp hsome
    rcases hclient : grant.clientId with _ | asked
    · rw [visibleTo_of_no_client rest tables hclient]
      exact ⟨h, fun _ => rfl⟩
    · obtain ⟨hserved, houtcome⟩ :=
        descendantsOf_servedTo rest h (howns asked site hscope hclient hsite)
      rw [SiteTrees.visibleTo_of_group _ hscope hclient hsite, Task.bind_pure_apply,
        MembershipTables.visible_of_group_eq_descendants hscope hclient hsite]
      refine ⟨hserved, ?_⟩
      intro hasked
      obtain rfl := hasked asked rfl
      rw [houtcome rfl]

/-! ### All clients at once -/

/-- The store holds what the tables hold, and what is kept about sites is right about them. -/
structure SitesServed (tables : MembershipTables) (s : AccessState (MembershipTables × ρ)) :
    Prop where
  stored : s.world.1.Same tables
  kept : s.sites.Faithful tables

/-- That is, it is right about each client, and only of stored sites it is kept what lies below
them. -/
theorem SitesServed.iff_servedTo :
    SitesServed tables s ↔ (∀ client, SitesServedTo tables client s) ∧
      ∀ {site below}, s.sites.descendants? site = some below →
        ∃ client, tables.Owns client site := by
  constructor
  · intro h
    obtain ⟨hall, howned⟩ := SiteCache.Faithful.iff_faithfulTo.mp h.kept
    exact ⟨fun client => ⟨h.stored, hall client⟩, howned⟩
  · rintro ⟨hall, howned⟩
    exact ⟨(hall default).stored,
      SiteCache.Faithful.iff_faithfulTo.mpr ⟨fun client => (hall client).kept, howned⟩⟩

/-- A tree is kept without what lies below its sites. -/
theorem descendants?_tree (client : ClientId) (site : SiteId)
    (s : AccessState (MembershipTables × ρ)) :
    (SiteTrees.tree rest.withTables client s).2.sites.descendants? site =
      s.sites.descendants? site := by
  rcases tree_cases rest client s with
    ⟨tree, -, htree⟩ | ⟨t, -, hsites, ⟨e, -, htree⟩ | ⟨tree, -, htree⟩⟩
  · rw [htree]
  · rw [htree, hsites]
  · rw [htree]
    rfl

/-- What is found below a site of the client lies below it in the tree of the tables. -/
theorem descendantsOf_eq_treeOf (h : SitesServed tables s) (howns : tables.Owns client site) :
    ∃ t, SiteTrees.descendantsOf rest.withTables client site s =
        ((tables.treeOf client).map (·.descendantsOf site), t) ∧ SitesServed tables t := by
  obtain ⟨hall, howned⟩ := SitesServed.iff_servedTo.mp h
  have hserved := fun other => descendantsOf_servedTo rest (hall other) howns
  refine ⟨_, Prod.ext ((hserved client).2 rfl) rfl, SitesServed.iff_servedTo.mpr
    ⟨fun other => (hserved other).1, ?_⟩⟩
  intro other below hkept
  rcases descendantsOf_cases rest client site s with
    ⟨held, -, hbelow⟩ | ⟨e, t, htree, hbelow⟩ | ⟨tree, t, htree, hbelow⟩
  · rw [hbelow] at hkept
    exact howned hkept
  · have hsame := descendants?_tree rest client other s
    rw [htree] at hsame
    rw [hbelow, hsame] at hkept
    exact howned hkept
  · have hsame := descendants?_tree rest client other s
    rw [htree] at hsame
    rw [hbelow] at hkept
    rcases SiteCache.descendants?_keepDescendants hkept with ⟨rfl, -⟩ | ⟨-, hbefore⟩
    · exact ⟨client, howns⟩
    · rw [hsame] at hbefore
      exact howned hbefore

/-- The sites that are found visible are those that the tables make visible. -/
theorem visibleTo_eq_visible (h : SitesServed tables s) (hwithin : grant.Within tables) :
    ∃ t, SiteTrees.visibleTo rest.withTables grant s = (tables.visible grant, t) ∧
      SitesServed tables t := by
  by_cases hgroup : grant.scope = .siteGroup → grant.siteId = none
  · rw [SiteTrees.visibleTo_of_not_group _ hgroup, MembershipTables.visible_of_not_group hgroup]
    exact ⟨s, rfl, h⟩
  · obtain ⟨hscope, hsome⟩ := Classical.not_imp.mp hgroup
    obtain ⟨site, hsite⟩ := Option.ne_none_iff_exists'.mp hsome
    have hbelow : grant.scope.atLeast .client = false := by
      rw [hscope]
      rfl
    obtain ⟨client, hclient, howns⟩ := hwithin hbelow
    obtain ⟨t, hfound, hserved⟩ := descendantsOf_eq_treeOf rest h (howns site hsite)
    rw [SiteTrees.visibleTo_of_group _ hscope hclient hsite, Task.bind_pure_apply, hfound,
      MembershipTables.visible_of_group_eq_descendants hscope hclient hsite]
    exact ⟨t, rfl, hserved⟩

end reading
end TenantAccess
