import TenantAccess.Proofs.Hierarchy.Cycles

/-!
# What is gathered below each site

A breadth-first walk down from the sites without parent comes to every grounded site once, and to
each before its children.  Going back along it, what lies below the children of a site is known when
the site is come to.

* `Queued`: how far the walk has come. A turn preserves it (`Queued.step`).
* `ParentsFirst`, `breadthFirst_queued`: where the walk ends, and its order.
* `LieBelow.of_children`, `gather_lieBelow`: what is gathered along such an order.
* `ofParents_of_grounded`: the hierarchy that comes of both.
-/

namespace TenantAccess
namespace SiteHierarchy

variable {sites : List SiteId} {parent? : SiteId → Option SiteId} {children : SiteId → List SiteId}
  {site above other child : SiteId} {seen queue order : List SiteId} {turns : Nat}

/-! ### Children -/

/-- The children of a site are the sites with that parent, each of them once. -/
structure Children (parent? : SiteId → Option SiteId) (children : SiteId → List SiteId) : Prop where
  mem_iff : ∀ site child, child ∈ children site ↔ parent? child = some site
  nodup : ∀ site, (children site).Nodup

/-- The index has under a key what the key is paired with. -/
theorem getD_index (pairs : List (SiteId × SiteId)) (key : SiteId) :
    (index pairs).getD key [] = (pairs.filter (·.1 == key)).map (·.2) := by
  unfold index
  induction pairs with
  | nil => simp
  | cons pair rest ih =>
    rw [List.foldr_cons, Std.TreeMap.getD_insert]
    by_cases hkey : pair.1 = key
    · subst hkey
      simp [ih]
    · have hne : (pair.1 == key) = false := beq_eq_false_iff_ne.mpr hkey
      simp [hkey, hne, ih]

/-- The links have the children of a site in the order of the sites. -/
theorem getD_childLinks (sites : List SiteId) (parent? : SiteId → Option SiteId) (site : SiteId) :
    (childLinks sites parent?).getD site [] =
      sites.filter fun child => parent? child == some site := by
  unfold childLinks
  rw [getD_index]
  induction sites with
  | nil => rfl
  | cons child rest ih =>
    rcases hparent : parent? child with _ | above
    · simp [hparent, ih]
    · by_cases hsame : above = site <;> simp [hparent, hsame, ih]

/-- The links down are the links up, the other way round. -/
theorem childLinks_children (hnodup : sites.Nodup) (hparents : ParentsIn sites parent?) :
    Children parent? fun site => (childLinks sites parent?).getD site [] where
  mem_iff := by
    intro site child
    rw [getD_childLinks, List.mem_filter, beq_iff_eq]
    exact ⟨And.right, fun hparent => ⟨(hparents child site hparent).1, hparent⟩⟩
  nodup := by
    intro site
    rw [getD_childLinks]
    exact hnodup.filter _

/-- What lies below a site are its children and what lies below these. -/
theorem Children.ascends_iff (h : Children parent? children) :
    Ascends parent? other site ↔
      ∃ child ∈ children site, other = child ∨ Ascends parent? other child := by
  unfold Ascends
  rw [Relation.TransGen.tail'_iff]
  constructor
  · rintro ⟨child, hother, hchild⟩
    refine ⟨child, (h.mem_iff site child).mpr hchild, ?_⟩
    exact (Relation.reflTransGen_iff_eq_or_transGen.mp hother).imp Eq.symm id
  · rintro ⟨child, hchild, hother⟩
    refine ⟨child, ?_, (h.mem_iff site child).mp hchild⟩
    exact Relation.reflTransGen_iff_eq_or_transGen.mpr (hother.imp Eq.symm id)

/-! ### The walk down -/

/-- The walk down has seen some sites, and others are waiting: those without parent, and the
children of the ones that have been seen. -/
structure Queued (sites : List SiteId) (parent? : SiteId → Option SiteId)
    (seen queue : List SiteId) : Prop where
  nodup : (seen ++ queue).Nodup
  listed : seen ++ queue ⊆ sites
  roots : ∀ site ∈ sites, parent? site = none → site ∈ seen ++ queue
  below : ∀ site above, parent? site = some above → (site ∈ seen ++ queue ↔ above ∈ seen)

/-- It begins with the sites without parent. -/
theorem Queued.start (hnodup : sites.Nodup) :
    Queued sites parent? [] (sites.filter fun site => (parent? site).isNone) where
  nodup := hnodup.filter _
  listed := List.filter_subset_self _
  roots site hsite hparent := List.mem_filter.mpr ⟨hsite, by simp [hparent]⟩
  below site above hparent := by simp [hparent]

/-- The first one that is waiting is seen, and its children wait. -/
theorem Queued.step (hchildren : Children parent? children) (hparents : ParentsIn sites parent?)
    (h : Queued sites parent? seen (site :: queue)) :
    Queued sites parent? (seen ++ [site]) (queue ++ children site) := by
  have hsplit : seen ++ [site] ++ (queue ++ children site) =
      seen ++ site :: queue ++ children site := by simp
  have hfresh : site ∉ seen := by
    intro hmem
    exact (List.disjoint_of_nodup_append h.nodup) hmem List.mem_cons_self
  refine ⟨?_, ?_, ?_, ?_⟩
  · rw [hsplit]
    refine h.nodup.append (hchildren.nodup site) ?_
    intro child hbefore hchild
    exact hfresh ((h.below child site ((hchildren.mem_iff site child).mp hchild)).mp hbefore)
  · rw [hsplit]
    refine List.append_subset.mpr ⟨h.listed, ?_⟩
    intro child hchild
    exact (hparents child site ((hchildren.mem_iff site child).mp hchild)).1
  · intro root hroot hparent
    rw [hsplit]
    exact List.mem_append_left _ (h.roots root hroot hparent)
  · intro child above hparent
    rw [hsplit, List.mem_append, h.below child above hparent, hchildren.mem_iff, hparent,
      List.mem_append, List.mem_singleton, Option.some.injEq]

/-- In the order a site comes before its children, and no site twice. -/
def ParentsFirst (children : SiteId → List SiteId) : List SiteId → Prop
  | [] => True
  | site :: later =>
    site ∉ later ∧ (∀ child ∈ children site, child ∈ later) ∧ ParentsFirst children later

/-- With a turn for each site the walk ends when none is waiting. It has come to those that were
waiting and on the way to each site before its children. -/
theorem breadthFirst_queued (hchildren : Children parent? children)
    (hparents : ParentsIn sites parent?) (h : Queued sites parent? seen queue)
    (hturns : sites.length ≤ seen.length + turns) :
    Queued sites parent? (seen ++ breadthFirst children turns queue) [] ∧
      queue ⊆ breadthFirst children turns queue ∧
      ParentsFirst children (breadthFirst children turns queue) := by
  induction turns generalizing seen queue with
  | zero =>
    -- as many sites as there are have been seen, so none is left to wait
    have hlength := (h.nodup.subperm h.listed).length_le
    rw [List.length_append] at hlength
    obtain rfl : queue = [] := List.length_eq_zero_iff.mp (by omega)
    simpa [breadthFirst, ParentsFirst] using h
  | succ turns ih =>
    rcases queue with _ | ⟨site, queue⟩
    · simpa [breadthFirst, ParentsFirst] using h
    have hlater : sites.length ≤ (seen ++ [site]).length + turns := by
      rw [List.length_append, List.length_singleton]
      omega
    obtain ⟨hqueued, hwaiting, hfirst⟩ := ih (h.step hchildren hparents) hlater
    obtain ⟨hqueue, hbelow⟩ := List.append_subset.mp hwaiting
    have hsplit : seen ++ [site] ++ breadthFirst children turns (queue ++ children site) =
        seen ++ site :: breadthFirst children turns (queue ++ children site) := by simp
    rw [hsplit] at hqueued
    have hnodup : (site :: breadthFirst children turns (queue ++ children site)).Nodup := by
      have hall := hqueued.nodup
      rw [List.append_nil] at hall
      exact hall.of_append_right
    refine ⟨hqueued, ?_, (List.nodup_cons.mp hnodup).1, hbelow, hfirst⟩
    exact List.cons_subset.mpr ⟨List.mem_cons_self, List.subset_cons_of_subset _ hqueue⟩

/-- When none is waiting, every grounded site has been seen. -/
theorem Queued.mem_of_grounded (hparents : ParentsIn sites parent?)
    (h : Queued sites parent? seen []) (hgrounded : Grounded parent? site) (hsite : site ∈ sites) :
    site ∈ seen := by
  induction hgrounded with
  | intro site _ ih =>
    rw [← List.append_nil seen]
    rcases hparent : parent? site with _ | above
    · exact h.roots site hsite hparent
    · rw [h.below site above hparent]
      exact ih above hparent (hparents site above hparent).2

/-! ### The way back -/

/-- Sorting neither adds nor loses a site. -/
theorem mem_sorted : site ∈ sorted sites ↔ site ∈ sites := List.mem_mergeSort

/-- Different sites are sorted into strictly ascending order. -/
theorem sorted_ascending (h : sites.Nodup) : (sorted sites).Pairwise (· < ·) := by
  have hsorted : (sorted sites).Pairwise fun a b => decide (a ≤ b) = true := by
    apply List.pairwise_mergeSort
    · intro a b c hab hbc
      rw [decide_eq_true_iff] at hab hbc ⊢
      exact Nat.le_trans hab hbc
    · intro a b
      rw [Bool.or_eq_true, decide_eq_true_iff, decide_eq_true_iff]
      exact Nat.le_total a.uuid.toNat b.uuid.toNat
  have hnodup : (sorted sites).Nodup := (List.mergeSort_perm _ _).nodup_iff.mpr h
  refine (hsorted.and hnodup).imp ?_
  rintro a b ⟨hle, hne⟩
  rw [decide_eq_true_iff] at hle
  exact Nat.lt_of_le_of_ne hle fun hsame => hne (Id.eq_of_toNat_eq hsame)

/-- Nothing lies below two children of a grounded site. -/
theorem Children.eq_of_ascends (h : Children parent? children) (hgrounded : Grounded parent? site)
    {first second : SiteId} (hfirst : first ∈ children site) (hsecond : second ∈ children site)
    (hother : other = first ∨ Ascends parent? other first)
    (hother' : other = second ∨ Ascends parent? other second) : first = second := by
  have hunique : Relator.RightUnique fun site above => parent? site = some above := by
    intro _ _ _ habove habove'
    exact Option.some.inj (habove.symm.trans habove')
  -- from one child up to another one the way would go through the site, and around a cycle
  have hnever : ∀ lower ∈ children site, ∀ upper ∈ children site,
      ¬ Ascends parent? lower upper := by
    intro lower hlower upper hupper hascends
    obtain ⟨above, habove, hrest⟩ := Relation.TransGen.head'_iff.mp hascends
    obtain rfl := Option.some.inj (((h.mem_iff site lower).mp hlower).symm.trans habove)
    exact hgrounded.not_ascends_self (Relation.TransGen.tail' hrest ((h.mem_iff _ upper).mp hupper))
  have hup := Relation.reflTransGen_iff_eq_or_transGen.mpr (hother.imp Eq.symm id)
  have hup' := Relation.reflTransGen_iff_eq_or_transGen.mpr (hother'.imp Eq.symm id)
  rcases Relation.ReflTransGen.total_of_right_unique hunique hup hup' with hway | hway
  · rcases Relation.reflTransGen_iff_eq_or_transGen.mp hway with hsame | hascends
    · exact hsame.symm
    · exact absurd hascends (hnever first hfirst second hsecond)
  · rcases Relation.reflTransGen_iff_eq_or_transGen.mp hway with hsame | hascends
    · exact hsame
    · exact absurd hascends (hnever second hsecond first hfirst)

/-- What is gathered is gathered for each site of the order, and for no other. -/
theorem contains_gather : (gather children order).contains site = true ↔ site ∈ order := by
  induction order with
  | nil => simp [gather]
  | cons first later ih =>
    unfold gather
    dsimp only
    rw [Std.TreeMap.contains_insert, Bool.or_eq_true, ih, List.mem_cons, beq_iff_eq,
      Std.compare_eq_iff_eq, eq_comm]

/-- The sites are those below the given one, in ascending order. -/
structure LieBelow (parent? : SiteId → Option SiteId) (site : SiteId) (below : List SiteId) :
    Prop where
  mem_iff : ∀ other, other ∈ below ↔ Ascends parent? other site
  ascending : below.Pairwise (· < ·)

/-- What lies below a grounded site is known from what lies below its children. -/
theorem LieBelow.of_children (hchildren : Children parent? children)
    (hgrounded : Grounded parent? site) {found : SiteId → List SiteId}
    (h : ∀ child ∈ children site, Grounded parent? child ∧ LieBelow parent? child (found child)) :
    LieBelow parent? site (sorted ((children site).flatMap fun child => child :: found child)) := by
  have hmem : ∀ child ∈ children site, ∀ other,
      other ∈ child :: found child ↔ other = child ∨ Ascends parent? other child := by
    intro child hchild other
    rw [List.mem_cons, (h child hchild).2.mem_iff]
  have hnodup : ((children site).flatMap fun child => child :: found child).Nodup := by
    refine List.nodup_flatMap.mpr ⟨?_, ?_⟩
    · intro child hchild
      obtain ⟨hground, hbelow⟩ := h child hchild
      refine List.nodup_cons.mpr ⟨?_, hbelow.ascending.imp fun hlt => ?_⟩
      · rw [hbelow.mem_iff]
        exact hground.not_ascends_self
      · rintro rfl
        exact Nat.lt_irrefl _ hlt
    · refine (hchildren.nodup site).imp_of_mem ?_
      intro first second hfirst hsecond hne other hother hother'
      exact hne (hchildren.eq_of_ascends hgrounded hfirst hsecond
        ((hmem first hfirst other).mp hother) ((hmem second hsecond other).mp hother'))
  refine ⟨?_, sorted_ascending hnodup⟩
  intro other
  rw [mem_sorted, List.mem_flatMap, hchildren.ascends_iff]
  exact exists_congr fun child => and_congr_right fun hchild => hmem child hchild other

/-- Along an order in which sites come before their children, below each site is gathered what lies
below it. -/
theorem gather_lieBelow (hchildren : Children parent? children)
    (hgrounded : ∀ site ∈ order, Grounded parent? site) (h : ParentsFirst children order)
    (hsite : site ∈ order) : LieBelow parent? site ((gather children order).getD site []) := by
  induction order generalizing site with
  | nil => cases hsite
  | cons first later ih =>
    obtain ⟨hfirst, hlater⟩ := List.forall_mem_cons.mp hgrounded
    obtain ⟨hnew, hbelow, hrest⟩ := h
    unfold gather
    dsimp only
    rw [Std.TreeMap.getD_insert]
    by_cases hsame : first = site
    · subst hsame
      rw [if_pos (by simp)]
      apply LieBelow.of_children hchildren hfirst
      intro child hchild
      exact ⟨hlater child (hbelow child hchild), ih hlater hrest (hbelow child hchild)⟩
    · rw [if_neg (by simpa using hsame)]
      exact ih hlater hrest ((List.mem_cons.mp hsite).resolve_left (Ne.symm hsame))

/-! ### Both together -/

/-- Where all sites are grounded, the hierarchy has each of them, with what lies below it. -/
theorem ofParents_of_grounded (hnodup : sites.Nodup) (hparents : ParentsIn sites parent?)
    (hgrounded : ∀ site ∈ sites, Grounded parent? site)
    (hsearch : detectCycle sites parent? = .ok ()) :
    ∃ hierarchy, ofParents sites parent? = .ok hierarchy ∧
      (∀ site, hierarchy.contains site = true ↔ site ∈ sites) ∧
      ∀ site ∈ sites, LieBelow parent? site (hierarchy.descendantsOf site) := by
  have hchildren := childLinks_children hnodup hparents
  have hstart : Queued sites parent? [] (sites.filter fun site => (parent? site).isNone) :=
    .start hnodup
  obtain ⟨hqueued, -, hfirst⟩ := breadthFirst_queued hchildren hparents hstart (Nat.le_add_left _ _)
  rw [List.nil_append] at hqueued
  have horder : ∀ site, site ∈ breadthFirst _ sites.length _ ↔ site ∈ sites := fun site =>
    ⟨fun hmem => hqueued.listed (List.mem_append_left _ hmem),
      fun hmem => hqueued.mem_of_grounded hparents (hgrounded site hmem) hmem⟩
  unfold ofParents
  rw [hsearch]
  refine ⟨_, rfl, ?_, ?_⟩
  · intro site
    exact contains_gather.trans (horder site)
  · intro site hsite
    exact gather_lieBelow hchildren (fun site hmem => hgrounded site ((horder site).mp hmem)) hfirst
      ((horder site).mpr hsite)

end SiteHierarchy
end TenantAccess
