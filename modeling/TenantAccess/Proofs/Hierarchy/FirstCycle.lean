import TenantAccess.Proofs.Hierarchy.Forest

/-!
# The site that is reported for a cycle

Parents are followed from one site after the other in ascending order, until a site comes up for
the second time.  That is on the cycle that is come to first, and it is the site at which the path
from outside enters it.  It need not be the lowest site of the cycle: a path that begins with a lower
site off the cycle may enter it anywhere.

* `Leads`, `FirstToCycle`: where parents lead, and the lowest site from which they lead to a cycle.
* `LowestOnCycle`: the lowest of the sites on a cycle.
* `build_reports_entry`: what is reported.
* `lowestOnCycle_iff`: when that is the lowest site of its cycle.
* `reported_site_not_lowest`: that it is not always so.
-/

namespace TenantAccess
namespace SiteHierarchy

variable {nodes : List SiteNode} {start site other : SiteId}

/-- Following listed parents leads from the first site up to the second one in any number of
steps. -/
def Leads (nodes : List SiteNode) : SiteId → SiteId → Prop :=
  Relation.ReflTransGen (HasParent nodes)

/-- The site is the lowest of those that are listed from which parents lead to a cycle. -/
structure FirstToCycle (nodes : List SiteNode) (start : SiteId) : Prop where
  leads : ∃ site, Leads nodes start site ∧ Below nodes site site
  lowest : ∀ other ∈ nodes.map SiteNode.id, other < start →
    ∀ site, Leads nodes other site → ¬ Below nodes site site

/-- The site is the first on a cycle that parents lead to from another one. -/
structure FirstOnCycle (nodes : List SiteNode) (start site : SiteId) : Prop where
  cyclic : Below nodes site site
  before : site = start ∨
    ∃ last, Leads nodes start last ∧ ¬ Below nodes last last ∧ HasParent nodes last site

/-- The site is on a cycle, and the lowest there. What is above a site of a cycle is on the cycle as
well, and nothing else is. -/
structure LowestOnCycle (nodes : List SiteNode) (site : SiteId) : Prop where
  cyclic : Below nodes site site
  lowest : ∀ other, Below nodes site other → site ≤ other

/-! ### Going around -/

/-- The parents that are followed are those that the nodes list. -/
theorem isParent_parentIn (h : (nodes.map SiteNode.id).Nodup) :
    IsParent (parentIn (parentLinks nodes)) = HasParent nodes := by
  funext site parent
  exact propext (parentIn_parentLinks h)

/-- A site has one parent. -/
theorem HasParent.unique (h : (nodes.map SiteNode.id).Nodup) :
    Relator.RightUnique (HasParent nodes) := by
  intro site parent parent' hparent hparent'
  rw [← isParent_parentIn h] at hparent hparent'
  exact Option.some.inj (hparent.symm.trans hparent')

/-- Parents do not lead off a cycle. -/
theorem Below.cyclic_of_leads (h : (nodes.map SiteNode.id).Nodup) (hcyclic : Below nodes site site)
    (hleads : Leads nodes site other) : Below nodes other other := by
  induction hleads with
  | refl => exact hcyclic
  | tail _ hparent ih =>
    obtain ⟨above, habove, hback⟩ := Relation.TransGen.head'_iff.mp ih
    obtain rfl := HasParent.unique h habove hparent
    exact Relation.TransGen.tail' hback hparent

/-- Parents lead to the first site on the cycle. -/
theorem FirstOnCycle.leads (hsite : FirstOnCycle nodes start site) : Leads nodes start site := by
  rcases hsite.before with rfl | ⟨last, hlast, -, hparent⟩
  · exact .refl
  · exact hlast.tail hparent

/-- From a site parents lead to one site first that is on a cycle. -/
theorem FirstOnCycle.unique (h : (nodes.map SiteNode.id).Nodup)
    (hsite : FirstOnCycle nodes start site) (hother : FirstOnCycle nodes start other) :
    site = other := by
  rcases hsite.before with rfl | ⟨last, hlast, hoff, hparent⟩ <;>
    rcases hother.before with rfl | ⟨last', hlast', hoff', hparent'⟩
  · rfl
  · exact absurd (hsite.cyclic.cyclic_of_leads h hlast') hoff'
  · exact absurd (hother.cyclic.cyclic_of_leads h hlast) hoff
  · -- of the two last sites off the cycle one leads to the other, but not over the cycle
    have hnext : ∀ {last last' site : SiteId}, HasParent nodes last site → Below nodes site site →
        ¬ Below nodes last' last' → Leads nodes last last' → last = last' := by
      intro last last' site hparent hcyclic hoff' hleads
      rcases Relation.ReflTransGen.cases_head hleads with rfl | ⟨above, habove, hrest⟩
      · rfl
      · obtain rfl := HasParent.unique h habove hparent
        exact absurd (hcyclic.cyclic_of_leads h hrest) hoff'
    obtain rfl : last = last' := by
      rcases Relation.ReflTransGen.total_of_right_unique (HasParent.unique h) hlast hlast' with
        hleads | hleads
      · exact hnext hparent hsite.cyclic hoff' hleads
      · exact (hnext hparent' hother.cyclic hoff hleads).symm
    exact HasParent.unique h hparent hparent'

/-! ### What is reported -/

/-- Whatever parents lead to from a grounded site is grounded. -/
theorem Grounded.of_leads {parent? : SiteId → Option SiteId} (hgrounded : Grounded parent? site)
    (hleads : Relation.ReflTransGen (IsParent parent?) site other) : Grounded parent? other := by
  induction hleads with
  | refl => exact hgrounded
  | tail _ habove ih => exact ih.inv habove

/-- Among sites in ascending order, those before the first one that is not grounded are all that
are lower. -/
theorem FirstToCycle.of_split (h : (nodes.map SiteNode.id).Nodup) {before after : List SiteId}
    (hsplit : (givenParents nodes).keys = before ++ start :: after)
    (hgrounded : ∀ site ∈ before, Grounded (parentIn (parentLinks nodes)) site)
    (hleads : Leads nodes start site) (hcyclic : Below nodes site site) :
    FirstToCycle nodes start := by
  refine ⟨⟨site, hleads, hcyclic⟩, ?_⟩
  intro other hlisted hlower cyclic hother hother'
  have hascending := keys_ascending (givenParents nodes)
  have hmem := (mem_keys_givenParents h).mpr hlisted
  rw [hsplit] at hascending hmem
  obtain ⟨-, hlater, -⟩ := List.pairwise_append.mp hascending
  have hbefore : other ∈ before := by
    rcases List.mem_append.mp hmem with hbefore | hrest
    · exact hbefore
    rcases List.mem_cons.mp hrest with rfl | hafter
    · exact absurd hlower (Nat.lt_irrefl _)
    · have hgreater := (List.pairwise_cons.mp hlater).1 other hafter
      exact absurd (Id.lt_trans hlower hgreater) (Nat.lt_irrefl _)
  rw [Leads, ← isParent_parentIn h] at hother
  rw [← ascends_parentIn h] at hother'
  exact ((hgrounded other hbefore).of_leads hother).not_ascends_self hother'

/-- Where there is a cycle, the search comes to one from the lowest site that leads to any, and
reports the first site there. -/
theorem build_of_cycle (h : (nodes.map SiteNode.id).Nodup)
    (hcycle : ∃ site, Below nodes site site) :
    ∃ start site, FirstToCycle nodes start ∧ FirstOnCycle nodes start site ∧
      build nodes = .error (.cycle site) := by
  obtain ⟨cyclic, hcyclic⟩ := hcycle
  rcases detectCycle_cases (parentsIn_parentLinks h) with
    ⟨before, start, after, site, hsplit, hbefore, henters, hsearch⟩ | ⟨-, hgrounded⟩
  · have hbuild : build nodes = .error (.cycle site) := by
      rw [build_of_nodup h]
      unfold ofParents
      rw [hsearch]
      rfl
    obtain ⟨hsite, hfirst⟩ := henters
    rw [ascends_parentIn h, isParent_parentIn h] at hfirst
    rw [ascends_parentIn h] at hsite
    have hentry : FirstOnCycle nodes start site := ⟨hsite, hfirst⟩
    exact ⟨start, site, .of_split h hsplit hbefore hentry.leads hsite, hentry, hbuild⟩
  · have hlisted := (mem_keys_givenParents h).mpr hcyclic.listed.1
    rw [← ascends_parentIn h] at hcyclic
    exact absurd hcyclic (hgrounded cyclic hlisted).not_ascends_self

/-- The first site on a cycle is its lowest one if it is the site from which parents were followed,
which is the lowest that leads to any cycle, or if the path from there enters the cycle at its
lowest site; not otherwise. -/
theorem lowestOnCycle_iff (h : (nodes.map SiteNode.id).Nodup) (hfirst : FirstToCycle nodes start)
    (hentry : FirstOnCycle nodes start site) :
    LowestOnCycle nodes site ↔ Below nodes start start ∨
      ∃ last lowest, Leads nodes start last ∧ ¬ Below nodes last last ∧
        HasParent nodes last lowest ∧ LowestOnCycle nodes lowest := by
  constructor
  · intro hlowest
    rcases hentry.before with rfl | ⟨last, hlast, hoff, hparent⟩
    · exact .inl hentry.cyclic
    · exact .inr ⟨last, site, hlast, hoff, hparent, hlowest⟩
  · rintro (hstart | ⟨last, lowest, hlast, hoff, hparent, hlowest⟩)
    · obtain rfl := hentry.unique h ⟨hstart, .inl rfl⟩
      refine ⟨hstart, fun other hother => Nat.le_of_not_lt fun hlower => ?_⟩
      have hcyclic := hstart.cyclic_of_leads h hother.to_reflTransGen
      exact hfirst.lowest other hother.listed.2 hlower other .refl hcyclic
    · obtain rfl := hentry.unique h ⟨hlowest.cyclic, .inr ⟨last, hlast, hoff, hparent⟩⟩
      exact hlowest

/-- What is reported of sites without duplicates that have a cycle. The cycle is the one that is
come to when parents are followed from the sites in ascending order, and the site is the one at which
it is entered. That is the lowest site of the cycle exactly if the lowest site that leads to a cycle
is on it, or the path from there enters the cycle at its lowest site. -/
theorem build_reports_entry (nodes : List SiteNode) (h : (nodes.map SiteNode.id).Nodup)
    (hcycle : ∃ site, Below nodes site site) :
    ∃ start site, FirstToCycle nodes start ∧ FirstOnCycle nodes start site ∧
      build nodes = .error (.cycle site) ∧
      (LowestOnCycle nodes site ↔ Below nodes start start ∨
        ∃ last lowest, Leads nodes start last ∧ ¬ Below nodes last last ∧
          HasParent nodes last lowest ∧ LowestOnCycle nodes lowest) := by
  obtain ⟨start, site, hfirst, hentry, hbuild⟩ := build_of_cycle h hcycle
  exact ⟨start, site, hfirst, hentry, hbuild, lowestOnCycle_iff h hfirst hentry⟩

/-- Site 1 is off the cycle of sites 2 and 3, below site 3. -/
def tailedCycle : List SiteNode :=
  [⟨.ofNat 1, some (.ofNat 3)⟩, ⟨.ofNat 2, some (.ofNat 3)⟩, ⟨.ofNat 3, some (.ofNat 2)⟩]

/-- Site 3 is on the cycle. -/
theorem below_tailedCycle : Below tailedCycle (.ofNat 3) (.ofNat 3) := by
  have hparent : HasParent tailedCycle (.ofNat 3) (.ofNat 2) := ⟨by decide, by decide⟩
  have hback : HasParent tailedCycle (.ofNat 2) (.ofNat 3) := ⟨by decide, by decide⟩
  exact .head hparent (.single hback)

/-- Following parents from site 1, one comes to site 3 of the cycle first. -/
theorem build_reports_entry_tailed :
    (tailedCycle.map SiteNode.id).Nodup ∧ (∃ site, Below tailedCycle site site) ∧
      ∃ start site, FirstToCycle tailedCycle start ∧ FirstOnCycle tailedCycle start site ∧
        build tailedCycle = .error (.cycle site) := by
  have hnodup : (tailedCycle.map SiteNode.id).Nodup := by decide
  have hcycle : ∃ site, Below tailedCycle site site := ⟨_, below_tailedCycle⟩
  obtain ⟨start, site, hfirst, hentry, hbuild, -⟩ := build_reports_entry tailedCycle hnodup hcycle
  exact ⟨hnodup, hcycle, start, site, hfirst, hentry, hbuild⟩

/-- The site that is reported for a cycle is not always its lowest one. -/
theorem reported_site_not_lowest :
    (tailedCycle.map SiteNode.id).Nodup ∧ build tailedCycle = .error (.cycle (.ofNat 3)) ∧
      Below tailedCycle (.ofNat 3) (.ofNat 2) ∧ (.ofNat 2 : SiteId) < .ofNat 3 ∧
      ¬ LowestOnCycle tailedCycle (.ofNat 3) := by
  have hparent : HasParent tailedCycle (.ofNat 3) (.ofNat 2) := ⟨by decide, by decide⟩
  refine ⟨by decide, by cbv, .single hparent, by decide, ?_⟩
  intro hlowest
  exact absurd (hlowest.lowest _ (.single hparent)) (by decide)

end SiteHierarchy
end TenantAccess
