import TenantAccess.Proofs.Hierarchy.Descendants

/-!
# Hierarchies of forests

A hierarchy is built exactly from the finite forests, and has in it what their parents say.

* `HasParent`, `Below`: what pairs of sites and parents say, whatever their order.
* `Indexes`: the hierarchy has the listed sites, and below each the sites whose parents lead to it.
* `parentIn_parentLinks`, `mem_keys_givenParents`: what it is built from are the pairs.
* `build_of_not_nodup`, `build_of_below_self`, `build_of_forest`: what is built, case by case.
* `build_perm`: the order of the pairs does not matter.
* `build_decides_forest`: all of it.
-/

namespace TenantAccess
namespace SiteHierarchy

variable {nodes nodes' : List SiteNode} {site other parent : SiteId}

/-! ### Parents and what lies below -/

/-- The site is listed with the parent, and the parent is listed too. -/
def HasParent (nodes : List SiteNode) (site parent : SiteId) : Prop :=
  ⟨site, some parent⟩ ∈ nodes ∧ parent ∈ nodes.map SiteNode.id

/-- Following listed parents leads from the first site up to the second one in at least one step. -/
def Below (nodes : List SiteNode) : SiteId → SiteId → Prop :=
  Relation.TransGen (HasParent nodes)

/-- A site that has a parent is listed. -/
theorem HasParent.listed (h : HasParent nodes site parent) : site ∈ nodes.map SiteNode.id :=
  List.mem_map_of_mem h.1

/-- Whatever lies below a site is listed, and so is the site. -/
theorem Below.listed (h : Below nodes site other) :
    site ∈ nodes.map SiteNode.id ∧ other ∈ nodes.map SiteNode.id := by
  obtain ⟨_, hfirst, -⟩ := Relation.TransGen.head'_iff.mp h
  obtain ⟨_, -, hlast⟩ := Relation.TransGen.tail'_iff.mp h
  exact ⟨hfirst.listed, hlast.2⟩

/-! ### What a hierarchy has to have in it -/

/-- The hierarchy has exactly the listed sites, and below each of them exactly the other sites whose
parents lead up to it. -/
structure Indexes (nodes : List SiteNode) (hierarchy : SiteHierarchy) : Prop where
  contains : ∀ site, hierarchy.contains site = true ↔ site ∈ nodes.map SiteNode.id
  mem_sites : ∀ site, site ∈ hierarchy.sites ↔ site ∈ nodes.map SiteNode.id
  sites_ascending : hierarchy.sites.Pairwise (· < ·)
  mem_descendantsOf : ∀ site other,
    other ∈ hierarchy.descendantsOf site ↔ other ≠ site ∧ Below nodes other site
  descendantsOf_ascending : ∀ site, (hierarchy.descendantsOf site).Pairwise (· < ·)
  descendantsOf_unlisted : ∀ site, site ∉ nodes.map SiteNode.id → hierarchy.descendantsOf site = []

/-! ### Sites listed twice -/

/-- There is no duplicate when no site is listed twice or was seen before. -/
theorem firstDuplicate?_eq_none {seen : List SiteId} :
    firstDuplicate? seen nodes = none ↔
      (∀ node ∈ nodes, node.id ∉ seen) ∧ (nodes.map SiteNode.id).Nodup := by
  induction nodes generalizing seen with
  | nil => simp [firstDuplicate?]
  | cons node rest ih =>
    unfold firstDuplicate?
    by_cases hseen : node.id ∈ seen
    · simp [hseen]
    · rw [if_neg (by simpa using hseen), ih]
      simp only [List.mem_cons, not_or, List.map_cons, List.nodup_cons, List.mem_map, not_exists,
        not_and, forall_eq_or_imp]
      grind

/-- The site that is found is listed, and listed twice or seen before. -/
theorem firstDuplicate?_eq_some {seen : List SiteId} (h : firstDuplicate? seen nodes = some site) :
    site ∈ nodes.map SiteNode.id ∧ (site ∈ seen ∨ 1 < (nodes.map SiteNode.id).count site) := by
  induction nodes generalizing seen with
  | nil => cases h
  | cons node rest ih =>
    unfold firstDuplicate? at h
    by_cases hseen : node.id ∈ seen
    · rw [if_pos (List.contains_iff_mem.mpr hseen)] at h
      obtain rfl := Option.some.inj h
      exact ⟨by simp, .inl hseen⟩
    · rw [if_neg (by simpa using hseen)] at h
      obtain ⟨hlisted, htwice⟩ := ih h
      have hpos := List.count_pos_iff.mpr hlisted
      refine ⟨List.mem_cons_of_mem _ hlisted, ?_⟩
      rw [List.map_cons, List.count_cons]
      rcases htwice with hmem | htwice
      · rcases List.mem_cons.mp hmem with rfl | hmem
        · exact .inr (by simpa using hpos)
        · exact .inl hmem
      · exact .inr (by omega)

/-! ### The links -/

/-- Insertions of different keys leave under a key what was inserted under it, else what was there
before. -/
theorem getElem?_foldl_insert {given : Std.TreeMap SiteId (Option SiteId)} {value : Option SiteId}
    (h : (nodes.map SiteNode.id).Nodup) :
    (nodes.foldl (fun given node => given.insert node.id node.parentId) given)[site]? = some value ↔
      ⟨site, value⟩ ∈ nodes ∨ site ∉ nodes.map SiteNode.id ∧ given[site]? = some value := by
  induction nodes generalizing given with
  | nil => simp
  | cons node rest ih =>
    obtain ⟨hnew, hrest⟩ := List.nodup_cons.mp h
    rw [List.foldl_cons, ih hrest, Std.TreeMap.getElem?_insert]
    simp only [Std.compare_eq_iff_eq, List.mem_cons, List.map_cons, not_or]
    by_cases hsite : node.id = site
    · subst hsite
      have hrest' : ∀ value, ⟨node.id, value⟩ ∉ rest := fun value hmem =>
        hnew (List.mem_map.mpr ⟨_, hmem, rfl⟩)
      obtain ⟨id, parentId⟩ := node
      simp [hnew, hrest', eq_comm]
    · have hne : ∀ value, (⟨site, value⟩ : SiteNode) ≠ node := by
        rintro value rfl
        exact hsite rfl
      simp [hsite, hne, Ne.symm hsite]

/-- The given parents are those that the nodes list. -/
theorem getElem?_givenParents (h : (nodes.map SiteNode.id).Nodup) {value : Option SiteId} :
    (givenParents nodes)[site]? = some value ↔ ⟨site, value⟩ ∈ nodes := by
  unfold givenParents
  rw [getElem?_foldl_insert h]
  simp

/-- Exactly the listed sites are given parents, if only none. -/
theorem contains_givenParents (h : (nodes.map SiteNode.id).Nodup) :
    (givenParents nodes).contains site = true ↔ site ∈ nodes.map SiteNode.id := by
  rw [Std.TreeMap.contains_eq_isSome_getElem?, Option.isSome_iff_exists]
  simp only [getElem?_givenParents h, List.mem_map]
  constructor
  · rintro ⟨value, hmem⟩
    exact ⟨_, hmem, rfl⟩
  · rintro ⟨⟨id, parentId⟩, hmem, rfl⟩
    exact ⟨parentId, hmem⟩

/-- The listed sites are visited. -/
theorem mem_keys_givenParents (h : (nodes.map SiteNode.id).Nodup) :
    site ∈ (givenParents nodes).keys ↔ site ∈ nodes.map SiteNode.id := by
  rw [Std.TreeMap.mem_keys, ← Std.TreeMap.contains_iff_mem, contains_givenParents h]

/-- The links have the listed parents. -/
theorem parentIn_parentLinks (h : (nodes.map SiteNode.id).Nodup) :
    parentIn (parentLinks nodes) site = some parent ↔ HasParent nodes site parent := by
  unfold parentIn parentLinks HasParent
  dsimp only
  rw [Std.TreeMap.get?_eq_getElem?, Std.TreeMap.getElem?_map]
  simp only [Option.join_eq_some_iff, Option.map_eq_some_iff, getElem?_givenParents h]
  constructor
  · rintro ⟨value, hmem, hfilter⟩
    obtain ⟨rfl, hparent⟩ := Option.filter_eq_some_iff.mp hfilter
    exact ⟨hmem, (contains_givenParents h).mp hparent⟩
  · rintro ⟨hmem, hparent⟩
    exact ⟨_, hmem, Option.filter_eq_some_iff.mpr ⟨rfl, (contains_givenParents h).mpr hparent⟩⟩

/-- So going up the links is going up the listed parents. -/
theorem ascends_parentIn (h : (nodes.map SiteNode.id).Nodup) :
    Ascends (parentIn (parentLinks nodes)) = Below nodes := by
  unfold Ascends Below
  congr
  funext site parent
  exact propext (parentIn_parentLinks h)

/-- The listed parents are parents among the sites that are visited. -/
theorem parentsIn_parentLinks (h : (nodes.map SiteNode.id).Nodup) :
    ParentsIn (givenParents nodes).keys (parentIn (parentLinks nodes)) := by
  intro site above habove
  rw [mem_keys_givenParents h, mem_keys_givenParents h]
  have hparent := (parentIn_parentLinks h).mp habove
  exact ⟨hparent.listed, hparent.2⟩

/-! ### Building -/

/-- Sites that are keys come in ascending order. -/
theorem keys_ascending {α : Type} (map : Std.TreeMap SiteId α) : map.keys.Pairwise (· < ·) := by
  have hordered : map.keys.Pairwise fun a b => compare a b = .lt := Std.TreeMap.ordered_keys
  exact hordered.imp fun hlt => Nat.compare_eq_lt.mp hlt

/-- Without sites listed twice, the visited sites and their parents decide. -/
theorem build_of_nodup (h : (nodes.map SiteNode.id).Nodup) :
    build nodes = ofParents (givenParents nodes).keys (parentIn (parentLinks nodes)) := by
  unfold build
  rw [firstDuplicate?_eq_none.mpr ⟨by simp, h⟩]

/-- Where a site is listed twice, such a site is reported. -/
theorem build_of_not_nodup (h : ¬ (nodes.map SiteNode.id).Nodup) :
    ∃ site, build nodes = .error (.duplicateSite site) ∧
      1 < (nodes.map SiteNode.id).count site := by
  unfold build
  rcases hduplicate : firstDuplicate? [] nodes with _ | site
  · exact absurd (firstDuplicate?_eq_none.mp hduplicate).2 h
  · refine ⟨site, rfl, ?_⟩
    simpa using (firstDuplicate?_eq_some hduplicate).2

/-- The search for a cycle tells whether a site lies below itself. -/
theorem detectCycle_parentLinks (h : (nodes.map SiteNode.id).Nodup) :
    (∃ site, detectCycle (givenParents nodes).keys (parentIn (parentLinks nodes)) =
        .error (.cycle site) ∧ Below nodes site site) ∨
    detectCycle (givenParents nodes).keys (parentIn (parentLinks nodes)) = .ok () ∧
      (∀ site ∈ (givenParents nodes).keys, Grounded (parentIn (parentLinks nodes)) site) ∧
      ∀ site, ¬ Below nodes site site := by
  rw [← ascends_parentIn h]
  rcases detectCycle_cases (parentsIn_parentLinks h) with
    ⟨_, _, _, cyclic, -, -, henters, hsearch⟩ | ⟨hsearch, hgrounded⟩
  · exact .inl ⟨cyclic, hsearch, henters.cyclic⟩
  · refine .inr ⟨hsearch, hgrounded, ?_⟩
    intro site hcycle
    have hlisted : site ∈ (givenParents nodes).keys := by
      rw [ascends_parentIn h] at hcycle
      exact (mem_keys_givenParents h).mpr hcycle.listed.1
    exact (hgrounded site hlisted).not_ascends_self hcycle

/-- Where a site lies below itself, such a site is reported. -/
theorem build_of_below_self (h : (nodes.map SiteNode.id).Nodup) (hcycle : Below nodes site site) :
    ∃ site, build nodes = .error (.cycle site) ∧ Below nodes site site := by
  rw [build_of_nodup h]
  rcases detectCycle_parentLinks h with ⟨reported, hsearch, hreported⟩ | ⟨-, -, hforest⟩
  · refine ⟨reported, ?_, hreported⟩
    unfold ofParents
    rw [hsearch]
    rfl
  · exact absurd hcycle (hforest site)

/-- A hierarchy with the visited sites that has below each what lies below it, has in it what the
pairs say. -/
theorem Indexes.of_lieBelow (h : (nodes.map SiteNode.id).Nodup)
    (hforest : ∀ site, ¬ Below nodes site site) {hierarchy : SiteHierarchy}
    (hcontains : ∀ site, hierarchy.contains site = true ↔ site ∈ (givenParents nodes).keys)
    (hbelow : ∀ site ∈ (givenParents nodes).keys,
      LieBelow (parentIn (parentLinks nodes)) site (hierarchy.descendantsOf site)) :
    Indexes nodes hierarchy := by
  have hlisted : ∀ site, hierarchy.contains site = true ↔ site ∈ nodes.map SiteNode.id :=
    fun site => (hcontains site).trans (mem_keys_givenParents h)
  have hunlisted : ∀ site, site ∉ nodes.map SiteNode.id → hierarchy.descendantsOf site = [] := by
    intro site hsite
    have hmissing : hierarchy.descendants.contains site = false :=
      Bool.eq_false_iff.mpr ((hlisted site).not.mpr hsite)
    exact Std.TreeMap.getD_eq_fallback_of_contains_eq_false hmissing
  refine ⟨hlisted, ?_, keys_ascending _, ?_, ?_, hunlisted⟩
  · intro site
    rw [← hlisted]
    exact Std.TreeMap.mem_keys.trans Std.TreeMap.contains_iff_mem.symm
  · intro site other
    by_cases hsite : site ∈ nodes.map SiteNode.id
    · rw [(hbelow site ((mem_keys_givenParents h).mpr hsite)).mem_iff, ascends_parentIn h]
      refine ⟨fun hother => ⟨?_, hother⟩, And.right⟩
      rintro rfl
      exact hforest other hother
    · rw [hunlisted site hsite]
      simp only [List.not_mem_nil, false_iff, not_and]
      exact fun _ hother => hsite hother.listed.2
  · intro site
    by_cases hsite : site ∈ nodes.map SiteNode.id
    · exact (hbelow site ((mem_keys_givenParents h).mpr hsite)).ascending
    · rw [hunlisted site hsite]
      exact List.Pairwise.nil

/-- Where no site lies below itself, the hierarchy is built. -/
theorem build_of_forest (h : (nodes.map SiteNode.id).Nodup)
    (hforest : ∀ site, ¬ Below nodes site site) :
    ∃ hierarchy, build nodes = .ok hierarchy ∧ Indexes nodes hierarchy := by
  obtain ⟨cyclic, -, hcyclic⟩ | ⟨hsearch, hgrounded, -⟩ := detectCycle_parentLinks h
  · exact absurd hcyclic (hforest cyclic)
  have hnodup : (givenParents nodes).keys.Nodup := Std.TreeMap.nodup_keys
  obtain ⟨hierarchy, hbuild, hcontains, hbelow⟩ :=
    ofParents_of_grounded hnodup (parentsIn_parentLinks h) hgrounded hsearch
  exact ⟨hierarchy, (build_of_nodup h).trans hbuild, .of_lieBelow h hforest hcontains hbelow⟩

/-- So a hierarchy that is built is one of the listed sites. -/
theorem indexes_of_build (h : (nodes.map SiteNode.id).Nodup) {hierarchy : SiteHierarchy}
    (hbuild : build nodes = .ok hierarchy) : Indexes nodes hierarchy := by
  have hforest : ∀ site, ¬ Below nodes site site := by
    intro site hbelow
    obtain ⟨cyclic, hcyclic, -⟩ := build_of_below_self h hbelow
    cases hbuild.symm.trans hcyclic
  obtain ⟨built, hbuilt, hindexes⟩ := build_of_forest h hforest
  obtain rfl := Except.ok.inj (hbuild.symm.trans hbuilt)
  exact hindexes

/-- The order in which the sites are listed does not matter. -/
theorem build_perm (h : (nodes.map SiteNode.id).Nodup) (hperm : nodes'.Perm nodes) :
    build nodes' = build nodes := by
  have hids : (nodes'.map SiteNode.id).Perm (nodes.map SiteNode.id) := hperm.map _
  have h' : (nodes'.map SiteNode.id).Nodup := hids.nodup_iff.mpr h
  have hparents : parentIn (parentLinks nodes') = parentIn (parentLinks nodes) := by
    funext site
    apply Option.ext
    intro parent
    rw [parentIn_parentLinks h', parentIn_parentLinks h]
    unfold HasParent
    rw [hperm.mem_iff, hids.mem_iff]
  have hkeys : (givenParents nodes').keys = (givenParents nodes).keys := by
    apply (keys_ascending _).eq_of_mem_iff (keys_ascending _)
    intro site
    rw [mem_keys_givenParents h', mem_keys_givenParents h, hids.mem_iff]
  rw [build_of_nodup h, build_of_nodup h', hkeys, hparents]

/-- Which lists of sites and parents are hierarchies, and what the hierarchy then has in it. With a
site listed twice, such a site is the error. Otherwise it is an error exactly when some site lies
below itself, and then such a site is reported; in a forest the hierarchy has exactly the listed
sites, each with exactly the sites below it. All of that is the same in whatever order the sites are
listed. -/
theorem build_decides_forest (nodes : List SiteNode) :
    (¬ (nodes.map SiteNode.id).Nodup → ∃ site, build nodes = .error (.duplicateSite site) ∧
      1 < (nodes.map SiteNode.id).count site) ∧
    ((nodes.map SiteNode.id).Nodup →
      ((∃ site, build nodes = .error (.cycle site)) ↔ ∃ site, Below nodes site site) ∧
      (∀ site, build nodes = .error (.cycle site) → Below nodes site site) ∧
      ((∀ site, ¬ Below nodes site site) →
        ∃ hierarchy, build nodes = .ok hierarchy ∧ Indexes nodes hierarchy) ∧
      ∀ nodes', nodes'.Perm nodes → build nodes' = build nodes) := by
  refine ⟨build_of_not_nodup, fun h => ?_⟩
  have hreported : ∀ site, build nodes = .error (.cycle site) → Below nodes site site := by
    intro site hbuild
    by_cases hforest : ∀ site, ¬ Below nodes site site
    · obtain ⟨hierarchy, hbuild', -⟩ := build_of_forest h hforest
      cases hbuild.symm.trans hbuild'
    · push Not at hforest
      obtain ⟨cyclic, hcyclic⟩ := hforest
      obtain ⟨site', hbuild', hsite'⟩ := build_of_below_self h hcyclic
      cases hbuild.symm.trans hbuild'
      exact hsite'
  refine ⟨⟨?_, ?_⟩, hreported, build_of_forest h, fun nodes' => build_perm h⟩
  · rintro ⟨site, hbuild⟩
    exact ⟨site, hreported site hbuild⟩
  · rintro ⟨site, hsite⟩
    obtain ⟨site', hbuild, -⟩ := build_of_below_self h hsite
    exact ⟨site', hbuild⟩

end SiteHierarchy
end TenantAccess
