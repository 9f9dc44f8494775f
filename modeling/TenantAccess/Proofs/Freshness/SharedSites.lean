import TenantAccess.Proofs.Freshness.ClientTrees

/-!
# What is kept below a site for all clients

What lies below a site is kept under the site alone, whichever client it was found out in.  Over
tables that stay as they are, a question about the site in another client is answered by it, too.

* `SiteQuery.about?`, `SiteQuery.finds`: what a question takes, and what it finds out.
* `SiteQuery.Recalls`: the caches hold the right trees, and below each site what was found out first.
* `SiteQuery.ask_recalls`, `SiteQuery.askAll_recalls`: one question preserves it, and so do many.
* `SiteQuery.ask_eq_unkept_iff`: an answer is the one found with nothing kept, unless the first client
  that the site was asked about in gives it away.
* `descendants_of_other_client`: two clients, and a site that is asked about in both.
-/

namespace TenantAccess

/-! ### What is kept -/

/-- What is found below a site once something is kept below one. -/
theorem SiteCache.find_keepDescendants (cache : SiteCache) (other site : SiteId)
    (kept : List SiteId) :
    (cache.keepDescendants other kept).descendants? site =
      if cache.mode = .keeping then
        if site = other then some kept else cache.descendants? site
      else none := by
  unfold keepDescendants descendants?
  rcases cache.mode with _ | _ | _
  · simp [Table.get?_insert]
  · rfl
  · rfl

/-- A cache that keeps nothing has nothing below any site. -/
theorem SiteCache.descendants?_of_not_keeping {cache : SiteCache} (h : cache.mode ≠ .keeping)
    (site : SiteId) : cache.descendants? site = none := by
  rw [Option.eq_none_iff_forall_ne_some]
  intro below hkept
  exact h (descendants?_eq_some.mp hkept).1

namespace MembershipTables

/-- Some site of the client lies below itself. -/
def Cyclic (tables : MembershipTables) (client : ClientId) : Prop :=
  ∃ site, tables.Below client site site

/-- The tree of a client has below a site what lies below it, unless there is none. -/
theorem treeOf_cases {tables : MembershipTables} (hkeyed : tables.SitesKeyed) (client : ClientId) :
    (tables.Cyclic client ∧ ∃ e, tables.treeOf client = .error e) ∨
    ¬tables.Cyclic client ∧ ∃ tree, tables.treeOf client = .ok tree ∧
      ∀ root site, site ∈ tree.descendantsOf root ↔ tables.Below client site root := by
  by_cases hcyclic : tables.Cyclic client
  · refine .inl ⟨hcyclic, ?_⟩
    obtain ⟨site, hsite⟩ := hcyclic
    rw [← below_nodesOf hkeyed] at hsite
    obtain ⟨reported, hbuild, -⟩ :=
      SiteHierarchy.build_of_below_self (nodup_nodesOf hkeyed client) hsite
    exact ⟨.hierarchy client (.cycle reported), treeOf_of_build hbuild⟩
  · have hforest : ∀ site, ¬tables.Below client site site := not_exists.mp hcyclic
    obtain ⟨tree, htree, hbelow⟩ := treeOf_of_forest hkeyed hforest
    refine .inr ⟨hcyclic, tree, htree, ?_⟩
    intro root site
    rw [hbelow, and_iff_right_iff_imp]
    rintro hsite rfl
    exact hforest _ hsite

end MembershipTables

namespace SiteQuery

/-! ### What a question takes -/

/-- The client and the site in it below which something has to be known, if anything has. -/
def about? : SiteQuery → Option (ClientId × SiteId)
  | tree _ => none
  | below client site => some (client, site)
  | visible grant =>
    match grant.scope, grant.clientId, grant.siteId with
    | .siteGroup, some client, some site => some (client, site)
    | _, _, _ => none

/-- The answer, given what lies below the site. -/
def answerBelow (found : Except SiteTreeError (List SiteId)) : SiteQuery → SiteAnswer
  | tree _ | below _ _ => .below found
  | visible grant => .visible (found.map fun below => .ofGrant grant fun _ => below)

/-- What lies below the site, if it is asked about and the client has a tree. -/
def finds (tables : MembershipTables) (site : SiteId) (query : SiteQuery) : Option (List SiteId) :=
  match query.about? with
  | some (client, asked) =>
    if asked = site then (tables.treeOf client).toOption.map (·.descendantsOf site) else none
  | none => none

section about

variable {client : ClientId} {site other : SiteId} {query : SiteQuery} {grant : EffectiveGrant}

/-- A grant is about a site when it is one for the site and what is below it, in a client. -/
theorem about?_visible :
    (visible grant).about? = some (client, site) ↔
      grant.scope = .siteGroup ∧ grant.clientId = some client ∧ grant.siteId = some site := by
  obtain ⟨scope, can, clientId, siteId, role⟩ := grant
  rcases scope with _ | _ | _ | _ | _ | _ <;> rcases clientId with _ | asked <;>
    rcases siteId with _ | root <;> simp [about?]

/-- A question about a site finds out what lies below it in the tree of the client, if there is
one. -/
theorem finds_of_about (tables : MembershipTables) (h : query.about? = some (client, site)) :
    query.finds tables site = (tables.treeOf client).toOption.map (·.descendantsOf site) := by
  unfold finds
  rw [h]
  exact if_pos rfl

/-- It finds out nothing about other sites. -/
theorem finds_of_about_other (tables : MembershipTables) (h : query.about? = some (client, site))
    (hne : other ≠ site) : query.finds tables other = none := by
  unfold finds
  rw [h]
  exact if_neg (Ne.symm hne)

/-- A question about no site finds out nothing about any. -/
theorem finds_of_not_about (tables : MembershipTables) (h : query.about? = none) (site : SiteId) :
    query.finds tables site = none := by
  unfold finds
  rw [h]

/-- What is found out about a site is what lies below it in the tree of the client. -/
theorem finds_eq_some {tables : MembershipTables} {below : List SiteId} :
    query.finds tables site = some below ↔
      ∃ client tree, query.about? = some (client, site) ∧ tables.treeOf client = .ok tree ∧
        tree.descendantsOf site = below := by
  rcases habout : query.about? with _ | ⟨client, asked⟩
  · simp [finds_of_not_about tables habout]
  · by_cases hsite : site = asked
    · subst hsite
      rw [finds_of_about tables habout]
      rcases htree : tables.treeOf client with e | tree <;> simp [Except.toOption, htree]
    · rw [finds_of_about_other tables habout hsite]
      simp [Ne.symm hsite]

/-- What the tables say is made of what lies below the site in the tree of the client. -/
theorem answer_of_about (tables : MembershipTables) (h : query.about? = some (client, site)) :
    query.answer tables = query.answerBelow ((tables.treeOf client).map (·.descendantsOf site)) := by
  rcases query with asked | ⟨asked, root⟩ | grant
  · cases h
  · cases h
    rfl
  · obtain ⟨hscope, hclient, hsite⟩ := about?_visible.mp h
    exact congrArg SiteAnswer.visible
      (MembershipTables.visible_of_group_eq_descendants hscope hclient hsite)

/-- What is answered about a site tells apart what can lie below it. -/
theorem answerBelow_inj {a b : List SiteId} (h : query.about? = some (client, site))
    (ha : site ∉ a) (hb : site ∉ b)
    (heq : query.answerBelow (.ok a) = query.answerBelow (.ok b)) (x : SiteId) :
    x ∈ a ↔ x ∈ b := by
  rcases query with asked | ⟨asked, root⟩ | grant
  · cases h
  · obtain rfl : a = b := by simpa [answerBelow] using heq
    rfl
  · obtain ⟨hscope, -, hsite⟩ := about?_visible.mp h
    have hsets : (SiteSet.ofList a).insert site = (SiteSet.ofList b).insert site := by
      simpa [answerBelow, Except.map, VisibleSites.ofGrant, hscope, hsite, Scope.atLeast,
        Scope.rank] using heq
    have hmem : x = site ∨ x ∈ a ↔ x = site ∨ x ∈ b := by
      have hlist : ∀ list, x ∈ (SiteSet.ofList list).toList ↔ x ∈ list := fun _ =>
        SiteSet.mem_toList_ofList
      rw [← hlist a, ← hlist b, ← SiteSet.mem_toList_insert, ← SiteSet.mem_toList_insert, hsets]
    by_cases hx : x = site
    · subst hx
      exact iff_of_false ha hb
    · simpa [hx] using hmem

end about

/-! ### What questions find out -/

section recalling

variable {ρ : Type} (rest : Platform ρ) {tables : MembershipTables} {queries : List SiteQuery}
  {s : AccessState (MembershipTables × ρ)} {client : ClientId} {site : SiteId}

/-- After the questions: the store holds what the tables hold, the kept trees are right, and caches
that keep anything have below each site what the first question found out about it. -/
structure Recalls (tables : MembershipTables) (queries : List SiteQuery)
    (s : AccessState (MembershipTables × ρ)) : Prop where
  stored : s.world.1.Same tables
  trees : ∀ {client tree}, s.sites.tree? client = some tree → tables.treeOf client = .ok tree
  below : s.sites.mode = .keeping → ∀ site,
    s.sites.descendants? site = queries.findSome? (·.finds tables site)

/-- With nothing kept and nothing asked there is nothing to recall. -/
theorem Recalls.of_empty (s : AccessState (MembershipTables × ρ)) :
    Recalls s.world.1 [] s.withoutSites where
  stored := .refl _
  trees := by
    intro client tree htree
    have hnone := (SiteCache.tree?_eq_some.mp htree).2
    cases hnone
  below := by
    intro _ site
    rw [List.findSome?_nil, Option.eq_none_iff_forall_ne_some]
    intro below hkept
    have hnone := (SiteCache.descendants?_eq_some.mp hkept).2
    cases hnone

/-- What is found out first, with one more question. -/
theorem findSome?_finds_snoc (tables : MembershipTables) (queries : List SiteQuery)
    (query : SiteQuery) (site : SiteId) :
    (queries ++ [query]).findSome? (·.finds tables site) =
      (queries.findSome? (·.finds tables site)).or (query.finds tables site) := by
  rw [List.findSome?_append, List.findSome?_singleton]

/-- A question that finds out nothing about any site leaves things as they are. -/
theorem Recalls.snoc_of_finds (h : Recalls tables queries s) {query : SiteQuery}
    (hnothing : ∀ site, query.finds tables site = none) :
    Recalls tables (queries ++ [query]) s where
  stored := h.stored
  trees := h.trees
  below := by
    intro hmode site
    rw [findSome?_finds_snoc, hnothing, Option.or_none, h.below hmode]

/-- The tree of a client is the one of the tables, and it is found without finding out what lies
below its sites. -/
theorem tree_recalls (h : Recalls tables queries s) (client : ClientId) :
    ∃ t, SiteTrees.tree rest.withTables client s = (tables.treeOf client, t) ∧
      t.sites.mode = s.sites.mode ∧ Recalls tables queries t := by
  rcases tree_cases rest client s with
    ⟨tree, hkept, htree⟩ | ⟨t, hst, hsites, ⟨e, hbuild, htree⟩ | ⟨tree, hbuild, htree⟩⟩
  · rw [← h.trees hkept] at htree
    exact ⟨s, htree, rfl, h⟩
  · rw [h.stored.nodesOf_eq] at hbuild
    have htreeOf : tables.treeOf client = .error (.hierarchy client e) :=
      MembershipTables.treeOf_of_build hbuild
    rw [← htreeOf] at htree
    refine ⟨t, htree, by rw [hsites], hst.trans h.stored, ?_, ?_⟩
    · rw [hsites]
      exact h.trees
    · rw [hsites]
      exact h.below
  · rw [h.stored.nodesOf_eq] at hbuild
    have htreeOf : tables.treeOf client = .ok tree := MembershipTables.treeOf_of_build hbuild
    rw [← htreeOf] at htree
    refine ⟨_, htree, rfl, ⟨hst.trans h.stored, ?_, h.below⟩⟩
    intro other found hfound
    rcases SiteCache.tree?_keepTree hfound with ⟨rfl, rfl⟩ | ⟨-, hbefore⟩
    · exact htreeOf
    · exact h.trees hbefore

/-- What lies below a site is what is kept below it, whichever client it was found out in. -/
theorem descendantsOf_recalls (h : Recalls tables queries s) {query : SiteQuery}
    (habout : query.about? = some (client, site)) :
    ∃ t, SiteTrees.descendantsOf rest.withTables client site s =
        (((s.sites.descendants? site).map .ok).getD
          ((tables.treeOf client).map (·.descendantsOf site)), t) ∧
      t.sites.mode = s.sites.mode ∧ Recalls tables (queries ++ [query]) t := by
  have hothers : ∀ {other}, other ≠ site → query.finds tables other = none := fun hother =>
    finds_of_about_other tables habout hother
  rcases hkept : s.sites.descendants? site with _ | below
  · obtain ⟨t, htree, hmode, ht⟩ := tree_recalls rest h client
    rcases descendantsOf_of_not_kept rest client site s hkept with
      ⟨e, t', htree', hfound⟩ | ⟨tree, t', htree', hfound⟩
    · obtain ⟨htreeOf, rfl⟩ := Prod.mk.inj (htree.symm.trans htree')
      refine ⟨t, ?_, hmode, ht.snoc_of_finds ?_⟩
      · rw [hfound, htreeOf]
        rfl
      · intro other
        by_cases hother : other = site
        · subst hother
          rw [finds_of_about tables habout, htreeOf]
          rfl
        · exact hothers hother
    · obtain ⟨htreeOf, rfl⟩ := Prod.mk.inj (htree.symm.trans htree')
      let now := { t with sites := t.sites.keepDescendants site (tree.descendantsOf site) }
      refine ⟨now, ?_, hmode, ht.stored, ht.trees, ?_⟩
      · rw [hfound, htreeOf]
        rfl
      · intro hnow other
        have hkeeping : t.sites.mode = .keeping := hnow
        have hbefore := ht.below hkeeping
        rw [findSome?_finds_snoc, ← hbefore]
        show (t.sites.keepDescendants site (tree.descendantsOf site)).descendants? other = _
        rw [SiteCache.find_keepDescendants, if_pos hkeeping]
        by_cases hother : other = site
        · -- the site was not asked about before
          subst hother
          have hnone : t.sites.descendants? other = none := by
            rw [hbefore, ← h.below (hmode ▸ hkeeping), hkept]
          rw [if_pos rfl, hnone, finds_of_about tables habout, htreeOf]
          rfl
        · rw [if_neg hother, hothers hother, Option.or_none]
  · refine ⟨s, ?_, rfl, h.stored, h.trees, ?_⟩
    · rw [descendantsOf_of_kept rest client site s hkept]
      rfl
    · intro hkeeping other
      rw [findSome?_finds_snoc, ← h.below hkeeping]
      by_cases hother : other = site
      · subst hother
        rw [hkept, Option.some_or]
      · rw [hothers hother, Option.or_none]

/-- A question takes what lies below the site it is about. -/
theorem ask_of_about {query : SiteQuery} (habout : query.about? = some (client, site)) :
    query.ask rest.withTables s =
      (query.answerBelow (SiteTrees.descendantsOf rest.withTables client site s).1,
        (SiteTrees.descendantsOf rest.withTables client site s).2) := by
  rcases query with asked | ⟨asked, root⟩ | grant
  · cases habout
  · cases habout
    rfl
  · obtain ⟨hscope, hclient, hsite⟩ := about?_visible.mp habout
    show ((SiteAnswer.visible (SiteTrees.visibleTo rest.withTables grant s).1,
      (SiteTrees.visibleTo rest.withTables grant s).2) : SiteAnswer × _) = _
    rw [SiteTrees.visibleTo_of_group _ hscope hclient hsite, Task.bind_pure_apply]
    rfl

/-- Any other question is answered as the tables say. -/
theorem ask_of_not_about (h : Recalls tables queries s) {query : SiteQuery}
    (habout : query.about? = none) :
    ∃ t, query.ask rest.withTables s = (query.answer tables, t) ∧
      t.sites.mode = s.sites.mode ∧ Recalls tables (queries ++ [query]) t := by
  have hnothing := finds_of_not_about tables habout
  rcases query with asked | ⟨asked, root⟩ | grant
  · obtain ⟨t, htree, hmode, ht⟩ := tree_recalls rest h asked
    refine ⟨t, ?_, hmode, ht.snoc_of_finds hnothing⟩
    show ((SiteAnswer.tree (SiteTrees.tree rest.withTables asked s).1,
      (SiteTrees.tree rest.withTables asked s).2) : SiteAnswer × _) = _
    rw [htree]
    rfl
  · cases habout
  · have hvisible : SiteTrees.visibleTo rest.withTables grant s = (tables.visible grant, s) := by
      rcases hclient : grant.clientId with _ | client
      · exact visibleTo_of_no_client rest tables hclient s
      · have hgroup : grant.scope = .siteGroup → grant.siteId = none := by
          intro hscope
          rw [Option.eq_none_iff_forall_ne_some]
          intro site hsite
          rw [about?_visible.mpr ⟨hscope, hclient, hsite⟩] at habout
          cases habout
        rw [SiteTrees.visibleTo_of_not_group _ hgroup, MembershipTables.visible_of_not_group hgroup]
        rfl
    refine ⟨s, ?_, rfl, h.snoc_of_finds hnothing⟩
    show ((SiteAnswer.visible (SiteTrees.visibleTo rest.withTables grant s).1,
      (SiteTrees.visibleTo rest.withTables grant s).2) : SiteAnswer × _) = _
    rw [hvisible]
    rfl

/-- A question is answered as the tables say, unless something is kept below the site it is about:
then it is answered by that. -/
theorem ask_recalls (h : Recalls tables queries s) (query : SiteQuery) :
    (query.ask rest.withTables s).1 =
        (match query.about?.bind fun about => s.sites.descendants? about.2 with
        | some found => query.answerBelow (.ok found)
        | none => query.answer tables) ∧
      (query.ask rest.withTables s).2.sites.mode = s.sites.mode ∧
      Recalls tables (queries ++ [query]) (query.ask rest.withTables s).2 := by
  rcases habout : query.about? with _ | ⟨client, site⟩
  · obtain ⟨t, hasked, hmode, ht⟩ := ask_of_not_about rest h habout
    rw [hasked]
    exact ⟨rfl, hmode, ht⟩
  · obtain ⟨t, hfound, hmode, ht⟩ := descendantsOf_recalls rest h habout
    rw [ask_of_about rest habout, hfound]
    refine ⟨?_, hmode, ht⟩
    rw [Option.bind_some]
    dsimp only
    rcases s.sites.descendants? site with _ | below
    · exact (answer_of_about tables habout).symm
    · rfl

/-- The state after questions. -/
def askAll (s : AccessState (MembershipTables × ρ)) (queries : List SiteQuery) :
    AccessState (MembershipTables × ρ) :=
  queries.foldl (fun s query => (query.ask rest.withTables s).2) s

/-- The last question is asked after all others. -/
theorem askAll_concat (s : AccessState (MembershipTables × ρ)) (queries : List SiteQuery)
    (query : SiteQuery) :
    askAll rest s (queries ++ [query]) = (query.ask rest.withTables (askAll rest s queries)).2 :=
  List.foldl_concat _ _ _ _

/-- With nothing kept at first, the caches recall whatever questions have been asked. -/
theorem askAll_recalls (s : AccessState (MembershipTables × ρ)) (queries : List SiteQuery) :
    (askAll rest s.withoutSites queries).sites.mode = s.sites.mode ∧
      Recalls s.world.1 queries (askAll rest s.withoutSites queries) := by
  induction queries using List.reverseRecOn with
  | nil => exact ⟨rfl, .of_empty s⟩
  | append_singleton queries query ih =>
    obtain ⟨hmode, hrecalls⟩ := ih
    obtain ⟨-, hkept, hnext⟩ := ask_recalls rest hrecalls query
    rw [askAll_concat]
    exact ⟨hkept.trans hmode, hnext⟩

/-- What is kept below a site is what the first question found out about it. -/
theorem descendants?_askAll {below : List SiteId} :
    (askAll rest s.withoutSites queries).sites.descendants? site = some below ↔
      s.sites.mode = .keeping ∧
        queries.findSome? (·.finds s.world.1 site) = some below := by
  obtain ⟨hmode, hrecalls⟩ := askAll_recalls rest s queries
  by_cases hkeeping : s.sites.mode = .keeping
  · rw [hrecalls.below (hmode.trans hkeeping)]
    exact (and_iff_right hkeeping).symm
  · have hother : (askAll rest s.withoutSites queries).sites.mode ≠ .keeping := by
      rw [hmode]
      exact hkeeping
    rw [SiteCache.descendants?_of_not_keeping hother]
    simp [hkeeping]

/-- With nothing kept, every question is answered as the tables say. -/
theorem ask_withoutSites (s : AccessState (MembershipTables × ρ)) (query : SiteQuery) :
    (query.ask rest.withTables s.withoutSites).1 = query.answer s.world.1 := by
  have hnone : ∀ site, s.withoutSites.sites.descendants? site = none := by
    intro site
    rw [Option.eq_none_iff_forall_ne_some]
    intro below hkept
    have hempty := (SiteCache.descendants?_eq_some.mp hkept).2
    cases hempty
  obtain ⟨hanswer, -⟩ := ask_recalls rest (.of_empty s) query
  rw [hanswer]
  rcases query.about? with _ | ⟨client, site⟩
  · rfl
  · rw [Option.bind_some, hnone]

end recalling

/-! ### Which answers are wrong -/

/-- The first question about the site whose client has a tree is about this client. -/
def FirstFoundIn (tables : MembershipTables) (site : SiteId) (client : ClientId)
    (queries : List SiteQuery) : Prop :=
  ¬tables.Cyclic client ∧
    ∃ earlier first later, queries = earlier ++ first :: later ∧
      first.about? = some (client, site) ∧
      ∀ query ∈ earlier, ∀ other, query.about? = some (other, site) → tables.Cyclic other

/-- What lies below the site in the one client is not what lies below it in the other one, which has
a tree. -/
def Differs (tables : MembershipTables) (site : SiteId) (client other : ClientId) : Prop :=
  tables.Cyclic client ∨
    client ≠ other ∧ ∃ below, tables.Below client below site ∨ tables.Below other below site

section wrong

variable {tables : MembershipTables} {query : SiteQuery} {queries : List SiteQuery}
  {client other : ClientId} {site : SiteId}

/-- Nothing is found out about a site in clients with a cycle. -/
theorem finds_eq_none_iff (hkeyed : tables.SitesKeyed) :
    query.finds tables site = none ↔
      ∀ other, query.about? = some (other, site) → tables.Cyclic other := by
  constructor
  · intro hnone other habout
    rw [finds_of_about tables habout] at hnone
    rcases MembershipTables.treeOf_cases hkeyed other with ⟨hcyclic, -⟩ | ⟨-, tree, htree, -⟩
    · exact hcyclic
    · rw [htree] at hnone
      cases hnone
  · intro hcyclic
    rw [Option.eq_none_iff_forall_ne_some]
    intro found hfound
    obtain ⟨other, tree, habout, htree, -⟩ := finds_eq_some.mp hfound
    rcases MembershipTables.treeOf_cases hkeyed other with ⟨-, e, herror⟩ | ⟨hforest, -⟩
    · cases herror.symm.trans htree
    · exact hforest (hcyclic other habout)

/-- What is found out first is what lies below the site in the first client with a tree. -/
theorem findSome?_finds (hkeyed : tables.SitesKeyed) {below : List SiteId} :
    queries.findSome? (·.finds tables site) = some below ↔
      ∃ client tree, FirstFoundIn tables site client queries ∧ tables.treeOf client = .ok tree ∧
        tree.descendantsOf site = below := by
  rw [List.findSome?_eq_some_iff]
  constructor
  · rintro ⟨earlier, first, later, rfl, hfirst, hearlier⟩
    obtain ⟨client, tree, habout, htree, hbelow⟩ := finds_eq_some.mp hfirst
    refine ⟨client, tree, ⟨?_, earlier, first, later, rfl, habout, ?_⟩, htree, hbelow⟩
    · rcases MembershipTables.treeOf_cases hkeyed client with ⟨-, e, herror⟩ | ⟨hforest, -⟩
      · cases herror.symm.trans htree
      · exact hforest
    · intro query hquery
      exact (finds_eq_none_iff hkeyed).mp (hearlier query hquery)
  · rintro ⟨client, tree, ⟨-, earlier, first, later, rfl, habout, hearlier⟩, htree, hbelow⟩
    refine ⟨earlier, first, later, rfl, finds_eq_some.mpr ⟨client, tree, habout, htree, hbelow⟩, ?_⟩
    intro query hquery
    exact (finds_eq_none_iff hkeyed).mpr (hearlier query hquery)

/-- Where the site was found out about first in a client, what is kept below it comes from the tree
of that client. -/
theorem FirstFoundIn.finds (hkeyed : tables.SitesKeyed)
    (h : FirstFoundIn tables site client queries) :
    ∃ tree, tables.treeOf client = .ok tree ∧
      queries.findSome? (·.finds tables site) = some (tree.descendantsOf site) := by
  rcases MembershipTables.treeOf_cases hkeyed client with ⟨hcyclic, -⟩ | ⟨-, tree, htree, -⟩
  · exact absurd hcyclic h.1
  · exact ⟨tree, htree, (findSome?_finds hkeyed).mpr ⟨client, tree, h, htree, rfl⟩⟩

/-- The tree of a client has nothing below a site where nothing lies below it. -/
theorem descendantsOf_eq_of_nothing {tree : SiteHierarchy}
    (hbelow : ∀ root lower, lower ∈ tree.descendantsOf root ↔ tables.Below client lower root)
    (hnothing : ∀ lower, ¬tables.Below client lower site) : tree.descendantsOf site = [] := by
  rw [List.eq_nil_iff_forall_not_mem]
  intro lower hmem
  exact hnothing lower ((hbelow site lower).mp hmem)

/-- Two different clients have the same below a site only where both have nothing. -/
theorem not_below_of_same (hne : client ≠ other)
    (hsame : ∀ lower, tables.Below client lower site ↔ tables.Below other lower site) :
    ¬∃ lower, tables.Below client lower site ∨ tables.Below other lower site := by
  rintro ⟨lower, hsome⟩
  have hin : tables.Below client lower site := hsome.elim id (hsame lower).mpr
  -- a site that lies below it in both clients is of both
  exact hne (((hsame lower).mp hin).owns.unique hin.owns)

/-- What lies below a site in the tree of another client is the answer to a question about it exactly
when the clients do not differ there. -/
theorem answerBelow_eq_answer_iff (hkeyed : tables.SitesKeyed)
    (habout : query.about? = some (client, site)) {tree : SiteHierarchy}
    (htree : tables.treeOf other = .ok tree) :
    query.answerBelow (.ok (tree.descendantsOf site)) = query.answer tables ↔
      ¬Differs tables site client other := by
  unfold Differs
  rw [answer_of_about tables habout]
  rcases MembershipTables.treeOf_cases hkeyed other with
    ⟨-, e, herror⟩ | ⟨hforest, tree', htree', hbelow⟩
  · cases herror.symm.trans htree
  obtain rfl := Except.ok.inj (htree.symm.trans htree')
  rcases MembershipTables.treeOf_cases hkeyed client with
    ⟨hcyclic, e, herror⟩ | ⟨hclient, own, hown, hbelow'⟩
  · rw [herror]
    refine iff_of_false ?_ (not_not_intro (.inl hcyclic))
    rcases query with asked | ⟨asked, root⟩ | grant <;> simp [answerBelow, Except.map]
  · rw [hown]
    show query.answerBelow (.ok (tree.descendantsOf site)) =
      query.answerBelow (.ok (own.descendantsOf site)) ↔ _
    constructor
    · intro heq hdiffers
      obtain ⟨hne, hsome⟩ := hdiffers.resolve_left hclient
      have hself : site ∉ tree.descendantsOf site := by
        rw [hbelow]
        exact fun hsite => hforest ⟨site, hsite⟩
      have hself' : site ∉ own.descendantsOf site := by
        rw [hbelow']
        exact fun hsite => hclient ⟨site, hsite⟩
      refine not_below_of_same hne ?_ hsome
      intro lower
      rw [← hbelow, ← hbelow', answerBelow_inj habout hself hself' heq]
    · intro hsame
      rw [not_or, not_and] at hsame
      by_cases hne : client = other
      · subst hne
        rw [Except.ok.inj (htree.symm.trans hown)]
      · have hnothing := not_exists.mp (hsame.2 hne)
        rw [descendantsOf_eq_of_nothing hbelow fun lower hlower => hnothing lower (.inr hlower),
          descendantsOf_eq_of_nothing hbelow' fun lower hlower => hnothing lower (.inl hlower)]

end wrong

/-- Over tables that stay as they are, whatever has been asked since nothing was kept: a question is
answered as it is with nothing kept, unless the caches keep anything and the site that it is about was
found out about first in a client in which something else lies below it.  With nothing kept, what is
told below a site in a client without a cycle are the sites that lie below it in this client. -/
theorem ask_eq_unkept_iff {ρ : Type} (rest : Platform ρ) (s : AccessState (MembershipTables × ρ))
    (hbuilt : s.world.1.Built) (queries : List SiteQuery) (query : SiteQuery) :
    ((query.ask rest.withTables (askAll rest s.withoutSites queries)).1 =
        (query.ask rest.withTables s.withoutSites).1 ↔
      ¬(s.sites.mode = .keeping ∧ ∃ client site other, query.about? = some (client, site) ∧
        FirstFoundIn s.world.1 site other queries ∧ Differs s.world.1 site client other)) ∧
    ∀ client site, ¬s.world.1.Cyclic client →
      ∃ found, ((below client site).ask rest.withTables s.withoutSites).1 = .below (.ok found) ∧
        ∀ lower, lower ∈ found ↔ s.world.1.Below client lower site := by
  have hkeyed := hbuilt.sitesKeyed
  obtain ⟨-, hrecalls⟩ := askAll_recalls rest s queries
  refine ⟨?_, ?_⟩
  · rw [(ask_recalls rest hrecalls query).1, ask_withoutSites]
    rcases habout : query.about? with _ | ⟨client, site⟩
    · simp
    · rw [Option.bind_some]
      dsimp only
      rcases hkept : (askAll rest s.withoutSites queries).sites.descendants? site with _ | found
      · refine iff_of_true rfl ?_
        rintro ⟨hmode, client', site', other, hsome, hfirst, -⟩
        obtain ⟨rfl, rfl⟩ := Prod.mk.inj (Option.some.inj hsome)
        obtain ⟨tree, -, hfinds⟩ := hfirst.finds hkeyed
        rw [(descendants?_askAll rest).mpr ⟨hmode, hfinds⟩] at hkept
        cases hkept
      · obtain ⟨hmode, hfound⟩ := (descendants?_askAll rest).mp hkept
        obtain ⟨other, tree, hfirst, htree, rfl⟩ := (findSome?_finds hkeyed).mp hfound
        dsimp only
        constructor
        · rintro hsame ⟨-, client', site', other', hsome, hfirst', hdiffers⟩
          obtain ⟨rfl, rfl⟩ := Prod.mk.inj (Option.some.inj hsome)
          obtain ⟨tree', htree', hfinds⟩ := hfirst'.finds hkeyed
          rw [Option.some.inj (hfound.symm.trans hfinds),
            answerBelow_eq_answer_iff hkeyed habout htree'] at hsame
          exact hsame hdiffers
        · intro hnot
          rw [answerBelow_eq_answer_iff hkeyed habout htree]
          exact fun hdiffers => hnot ⟨hmode, client, site, other, rfl, hfirst, hdiffers⟩
  · intro client site hforest
    rcases MembershipTables.treeOf_cases hkeyed client with ⟨hcyclic, -⟩ | ⟨-, tree, htree, hbelow⟩
    · exact absurd hcyclic hforest
    · refine ⟨tree.descendantsOf site, ?_, hbelow site⟩
      rw [ask_withoutSites]
      show SiteAnswer.below ((s.world.1.treeOf client).map (·.descendantsOf site)) = _
      rw [htree]
      rfl

end SiteQuery

/-! ### A site that is asked about in two clients -/

/-- A grant for the site 11 and what is below it, in the client of the site. -/
def groupGrant : EffectiveGrant :=
  ⟨.siteGroup, .empty, some (.ofNat 1), some (.ofNat 11), .stored default⟩

/-- A site that has been asked about in its own client only is answered for rightly there. -/
theorem ask_eq_unkept_own_client :
    twoClients.Built ∧
      let now := SiteQuery.askAll World.inMemory beforeMove.withoutSites
        [.below (.ofNat 1) (.ofNat 11), .tree (.ofNat 2)]
      ((SiteQuery.visible groupGrant).ask World.inMemory.withTables now).1 =
        ((SiteQuery.visible groupGrant).ask World.inMemory.withTables beforeMove.withoutSites).1 := by
  have hbuilt : twoClients.Built :=
    .addGrant _ _ <| .addGrant _ _ <| .upsertSite _ <| .upsertSite _ <| .upsertSite _ <|
      .upsertSite _ <| .upsertClient _ _ <| .upsertClient _ _ .empty
  refine ⟨hbuilt, ?_⟩
  intro now
  apply (SiteQuery.ask_eq_unkept_iff World.inMemory beforeMove hbuilt _ _).1.mpr
  rintro ⟨-, client, site, other, habout, ⟨hforest, earlier, first, later, hqueries, hfirst, -⟩,
    hdiffers⟩
  obtain ⟨rfl, rfl⟩ := Prod.mk.inj (Option.some.inj habout)
  have hmem : first ∈ earlier ++ first :: later := by simp
  rw [← hqueries] at hmem
  have hown : other = .ofNat 1 := by
    rcases List.mem_cons.mp hmem with rfl | hmem
    · exact (Prod.mk.inj (Option.some.inj hfirst)).1.symm
    · obtain rfl := List.mem_singleton.mp hmem
      cases hfirst
  subst hown
  rcases hdiffers with hcyclic | ⟨hne, -⟩
  · exact hforest hcyclic
  · exact hne rfl

/-- After what lies below a site was asked for in its own client, the same is told below it in the
other client, although nothing lies below it there. -/
theorem descendants_of_other_client :
    let now := SiteQuery.askAll World.inMemory beforeMove.withoutSites
      [.below (.ofNat 1) (.ofNat 11)]
    ((SiteQuery.below (.ofNat 2) (.ofNat 11)).ask World.inMemory.withTables now).1 =
        .below (.ok [.ofNat 12]) ∧
      ((SiteQuery.below (.ofNat 2) (.ofNat 11)).ask World.inMemory.withTables
        beforeMove.withoutSites).1 = .below (.ok []) ∧
      ((SiteQuery.below (.ofNat 2) (.ofNat 11)).ask World.inMemory.withTables now).1 ≠
        ((SiteQuery.below (.ofNat 2) (.ofNat 11)).ask World.inMemory.withTables
          beforeMove.withoutSites).1 := by
  have hkept : ((SiteQuery.below (.ofNat 2) (.ofNat 11)).ask World.inMemory.withTables
      (SiteQuery.askAll World.inMemory beforeMove.withoutSites
        [.below (.ofNat 1) (.ofNat 11)])).1 = .below (.ok [.ofNat 12]) := by cbv
  have hfresh : ((SiteQuery.below (.ofNat 2) (.ofNat 11)).ask World.inMemory.withTables
      beforeMove.withoutSites).1 = .below (.ok []) := by cbv
  refine ⟨hkept, hfresh, ?_⟩
  rw [hkept, hfresh]
  simp

end TenantAccess
