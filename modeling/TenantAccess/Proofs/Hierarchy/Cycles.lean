import Mathlib
import TenantAccess.Hierarchy

/-!
# The search for a cycle

Following parents up from one site after the other either comes back to a site, which then lies on
a cycle, or shows of each site that following its parents ends.  The marks tell the two apart: a
site on the path leads up to the site that is next, and the path up from one that is done ends.

* `Ascends`, `Grounded`: where following parents leads, and that it ends.
* `Enters`: which site of a cycle is come to first.  It is the one that a path which turns back on
  itself turns back to (`Enters.of_trail`).
* `Following`: what the marks say while a path is followed. A turn preserves it (`Following.step`).
* `follow_cases`, `settle_cases`: what comes of one path.
* `detectCycle_cases`: what comes of all.
-/

namespace TenantAccess

/-! ### Identifiers as keys -/

section keys

variable {kind : IdKind}

instance : Std.TransOrd (Id kind) where
  eq_swap {_ _} := @Std.OrientedCmp.eq_swap Nat compare _ _ _
  isLE_trans h h' := @Std.TransCmp.isLE_trans Nat compare _ _ _ _ h h'

instance : Std.LawfulEqOrd (Id kind) where
  compare_self {_} := @Std.ReflCmp.compare_self Nat compare _ _
  eq_of_compare h :=
    Id.eq_of_toNat_eq (@Std.LawfulEqCmp.eq_of_compare Nat compare _ _ _ h)

instance : Std.Irrefl (α := Id kind) (· < ·) := ⟨fun _ => Nat.lt_irrefl _⟩

instance : Std.Antisymm (α := Id kind) (· < ·) :=
  ⟨fun _ _ h h' => absurd (Id.lt_trans h h') (Nat.lt_irrefl _)⟩

end keys

namespace SiteHierarchy

variable {sites : List SiteId} {parent? : SiteId → Option SiteId} {site above other : SiteId}

/-! ### Following parents -/

/-- Only listed sites have parents, and these are listed too. -/
def ParentsIn (sites : List SiteId) (parent? : SiteId → Option SiteId) : Prop :=
  ∀ site above, parent? site = some above → site ∈ sites ∧ above ∈ sites

/-- Following parents leads from the first site up to the second one in at least one step. -/
def Ascends (parent? : SiteId → Option SiteId) : SiteId → SiteId → Prop :=
  Relation.TransGen fun site above => parent? site = some above

/-- Following parents from the site ends. -/
def Grounded (parent? : SiteId → Option SiteId) (site : SiteId) : Prop :=
  Acc (fun above site => parent? site = some above) site

/-- A site is grounded if its parent is, or if it has none. -/
theorem Grounded.of_parent (h : ∀ above, parent? site = some above → Grounded parent? above) :
    Grounded parent? site := Acc.intro site h

/-- A grounded site is not above itself. -/
theorem Grounded.not_ascends_self (h : Grounded parent? site) : ¬ Ascends parent? site site := by
  induction h with
  | intro site _ ih =>
    intro hcycle
    obtain ⟨above, habove, hback⟩ := Relation.TransGen.head'_iff.mp hcycle
    -- a cycle through a site is one through its parent as well
    exact ih above habove (Relation.TransGen.tail' hback habove)

/-! ### Coming to a cycle -/

/-- A site and its parent. -/
abbrev IsParent (parent? : SiteId → Option SiteId) (site above : SiteId) : Prop :=
  parent? site = some above

/-- Following parents from the first site on, the second one is the first that is on a cycle. -/
structure Enters (parent? : SiteId → Option SiteId) (start site : SiteId) : Prop where
  cyclic : Ascends parent? site site
  before : site = start ∨ ∃ last, Relation.ReflTransGen (IsParent parent?) start last ∧
    ¬ Ascends parent? last last ∧ IsParent parent? last site

/-- From each site of a path all later ones are above it. -/
theorem ascends_of_trail {trail : List SiteId} (h : trail.IsChain (IsParent parent?)) :
    trail.Pairwise (Ascends parent?) := by
  have htrans : Trans (Ascends parent?) (Ascends parent?) (Ascends parent?) :=
    ⟨Relation.TransGen.trans⟩
  have hascends : trail.IsChain (Ascends parent?) := h.imp fun _ _ => Relation.TransGen.single
  exact List.isChain_iff_pairwise.mp hascends

/-- Where a path turns back to its first site, there is no way out of it. -/
theorem mem_of_loop {loop : List SiteId} (h : (loop ++ [site]).IsChain (IsParent parent?))
    (hother : other ∈ loop) (habove : parent? other = some above) :
    above ∈ loop.tail ∨ above = site := by
  induction loop with
  | nil => cases hother
  | cons first rest ih =>
    rcases List.mem_cons.mp hother with rfl | hrest
    · -- the parent of a site on the path is the site that follows on the path
      rcases rest with _ | ⟨second, rest⟩
      · have hsite := (List.isChain_cons_cons (R := IsParent parent?)).mp h
        exact .inr (Option.some.inj (habove.symm.trans hsite.1))
      · have hsecond := (List.isChain_cons_cons (R := IsParent parent?)).mp h
        obtain rfl := Option.some.inj (habove.symm.trans hsecond.1)
        exact .inl List.mem_cons_self
    · rcases ih h.tail hrest with htail | hsite
      · exact .inl (List.mem_of_mem_tail htail)
      · exact .inr hsite

/-- A path that turns back to one of its sites enters a cycle there: what comes before is on no
cycle, because there is no way out of a cycle. -/
theorem Enters.of_trail {start : SiteId} {before after : List SiteId}
    (htrail : (before ++ site :: after ++ [site]).IsChain (IsParent parent?))
    (hnodup : (before ++ site :: after).Nodup)
    (hstart : (before ++ site :: after).head? = some start) : Enters parent? start site := by
  have hloop : (site :: after ++ [site]).IsChain (IsParent parent?) := by
    rw [List.append_assoc] at htrail
    exact htrail.right_of_append
  have hstays : ∀ other, Relation.ReflTransGen (IsParent parent?) site other →
      other ∈ site :: after := by
    intro other hreached
    induction hreached with
    | refl => exact List.mem_cons_self
    | tail _ habove ih =>
      rcases mem_of_loop hloop ih habove with hafter | rfl
      · exact List.mem_cons_of_mem _ hafter
      · exact List.mem_cons_self
  refine ⟨?_, ?_⟩
  · exact (List.pairwise_cons.mp (ascends_of_trail hloop)).1 site (by simp)
  · rcases List.eq_nil_or_concat' before with rfl | ⟨early, last, rfl⟩
    · exact .inl (Option.some.inj hstart)
    have hlast : parent? last = some site := by
      simp only [List.append_assoc, List.cons_append, List.nil_append] at htrail
      exact ((List.isChain_cons_cons (R := IsParent parent?)).mp htrail.right_of_append).1
    refine .inr ⟨last, ?_, ?_, hlast⟩
    · rcases early with _ | ⟨first, early⟩
      · obtain rfl : last = start := Option.some.inj hstart
        exact .refl
      · obtain rfl : first = start := Option.some.inj hstart
        have hascends := ascends_of_trail htrail
        exact ((List.pairwise_cons.mp hascends).1 last (by simp)).to_reflTransGen
    · intro hcyclic
      obtain ⟨above, habove, hback⟩ := Relation.TransGen.head'_iff.mp hcyclic
      obtain rfl := Option.some.inj (hlast.symm.trans habove)
      exact (List.nodup_append.mp hnodup).2.2 last (by simp) last (hstays last hback) rfl

/-! ### Marks -/

/-- The marks while a path is followed: the sites of the path are marked so; they are what following
parents from the first site goes through before the site that is next; what is done is grounded. -/
structure Following (sites : List SiteId) (parent? : SiteId → Option SiteId) (start : SiteId)
    (marks : Marks) (path : List SiteId) (next : Option SiteId) : Prop where
  done : ∀ site, marks[site]? = some .done → Grounded parent? site
  onPath : ∀ site, marks[site]? = some .onPath ↔ site ∈ path
  nodup : path.Nodup
  listed : path ⊆ sites
  next_listed : ∀ site, next = some site → site ∈ sites
  trail : (path ++ next.toList).IsChain (IsParent parent?)
  starts : (path ++ next.toList).head? = some start

/-- The marks when a path has been followed to its end: the sites it began from and went through are
grounded, and so is what is marked otherwise. -/
structure Followed (parent? : SiteId → Option SiteId) (path : List SiteId) (next : Option SiteId)
    (marks' : Marks) (path' : List SiteId) : Prop where
  next : ∀ site, next = some site → Grounded parent? site
  path : ∀ site ∈ path', site ∈ path ∨ Grounded parent? site
  marks : ∀ site mark, marks'[site]? = some mark →
    site ∈ path' ∨ mark = .done ∧ Grounded parent? site

section follow

variable {start : SiteId} {marks : Marks} {path : List SiteId} {next : Option SiteId}

/-- An unmarked site becomes part of the path, and its parent is next. -/
theorem Following.step (hparents : ParentsIn sites parent?)
    (h : Following sites parent? start marks path (some site)) (hnew : marks[site]? = none) :
    Following sites parent? start (marks.insert site .onPath) (path ++ [site]) (parent? site) := by
  have hfresh : site ∉ path := by
    intro hmem
    rw [(h.onPath site).mpr hmem] at hnew
    cases hnew
  have hmarks : ∀ other, (marks.insert site .onPath)[other]? =
      if site = other then some .onPath else marks[other]? := by
    intro other
    simp [Std.TreeMap.getElem?_insert]
  have htrail : (path ++ [site]).IsChain (IsParent parent?) := h.trail
  refine ⟨?_, ?_, ?_, ?_, ?_, ?_, ?_⟩
  · intro other hother
    rw [hmarks] at hother
    split at hother
    · cases hother
    · exact h.done other hother
  · intro other
    rw [hmarks, List.mem_append, List.mem_singleton]
    by_cases hsame : site = other
    · simp [hsame]
    · rw [if_neg hsame, h.onPath]
      exact ⟨.inl, fun hmem => hmem.resolve_right (Ne.symm hsame)⟩
  · exact List.nodup_append.mpr ⟨h.nodup, List.nodup_singleton _, by
      rintro other hother _ hlast rfl
      exact hfresh (List.mem_singleton.mp hlast ▸ hother)⟩
  · exact List.append_subset.mpr ⟨h.listed, List.cons_subset.mpr
      ⟨h.next_listed site rfl, List.nil_subset _⟩⟩
  · intro above habove
    exact (hparents site above habove).2
  · rcases hparent : parent? site with _ | above
    · rwa [Option.toList_none, List.append_nil]
    · refine htrail.append (List.isChain_singleton above) ?_
      intro last hlast _ habove
      obtain rfl : site = last := by simpa using hlast
      obtain rfl : above = _ := by simpa using habove
      exact hparent
  · have hstarts : (path ++ [site]).head? = some start := h.starts
    rw [List.head?_append, hstarts]
    rfl

/-- A site that is on the path already is where following parents enters a cycle. -/
theorem Following.enters (h : Following sites parent? start marks path (some site))
    (hmark : marks[site]? = some .onPath) : Enters parent? start site := by
  obtain ⟨before, after, rfl⟩ := List.append_of_mem ((h.onPath site).mp hmark)
  refine .of_trail h.trail h.nodup ?_
  have hstarts := h.starts
  rwa [List.head?_append_of_ne_nil _ (by simp)] at hstarts

/-- The path ends if nothing is next, or what is next is grounded. -/
theorem Following.ends (h : Following sites parent? start marks path next)
    (hnext : ∀ site, next = some site → Grounded parent? site) :
    Followed parent? path next marks path := by
  refine ⟨hnext, fun _ => .inl, ?_⟩
  rintro site (_ | _) hmark
  · exact .inl ((h.onPath site).mp hmark)
  · exact .inr ⟨rfl, h.done site hmark⟩

/-- With the parent of a site the site is grounded, so that it may be taken from the path. -/
theorem Followed.step {marks' : Marks} {path' : List SiteId}
    (h : Followed parent? (path ++ [site]) (parent? site) marks' path') :
    Followed parent? path (some site) marks' path' := by
  have hsite : Grounded parent? site := .of_parent h.next
  refine ⟨?_, ?_, h.marks⟩
  · rintro _ ⟨⟩
    exact hsite
  · intro other hother
    rcases h.path other hother with hmem | hgrounded
    · rcases List.mem_append.mp hmem with hbefore | hlast
      · exact .inl hbefore
      · obtain rfl := List.mem_singleton.mp hlast
        exact .inr hsite
    · exact .inr hgrounded

/-- Following parents enters a cycle, or ends. -/
theorem follow_cases (hparents : ParentsIn sites parent?) {turns : Nat}
    (h : Following sites parent? start marks path next)
    (hturns : sites.length < path.length + turns) :
    (∃ site, follow parent? turns marks path next = .error (.cycle site) ∧
      Enters parent? start site) ∨
    ∃ marks' path', follow parent? turns marks path next = .ok (marks', path') ∧
      Followed parent? path next marks' path' := by
  induction turns generalizing marks path next with
  | zero =>
    -- the sites of the path are different ones, so there are not that many
    have hlength := (h.nodup.subperm h.listed).length_le
    omega
  | succ turns ih =>
    rcases next with _ | site
    · exact .inr ⟨marks, path, rfl, h.ends (by simp)⟩
    unfold follow
    rcases hmark : marks[site]? with _ | (_ | _)
    · have hlater : sites.length < (path ++ [site]).length + turns := by
        rw [List.length_append, List.length_singleton]
        omega
      rcases ih (h.step hparents hmark) hlater with hcycle | ⟨marks', path', hrun, hfollowed⟩
      · exact .inl hcycle
      · exact .inr ⟨marks', path', hrun, hfollowed.step⟩
    · exact .inl ⟨site, rfl, h.enters hmark⟩
    · refine .inr ⟨marks, path, rfl, h.ends ?_⟩
      rintro _ ⟨⟩
      exact h.done site hmark

end follow

/-! ### One path after the other -/

/-- Between the paths everything that is marked is done and grounded. -/
def Settled (parent? : SiteId → Option SiteId) (marks : Marks) : Prop :=
  ∀ site mark, marks[site]? = some mark → mark = .done ∧ Grounded parent? site

/-- Once a path is done its sites are marked so, and the others as they were. -/
theorem getElem?_finish (marks : Marks) (path : List SiteId) (site : SiteId) :
    (finish marks path)[site]? = if site ∈ path then some .done else marks[site]? := by
  induction path generalizing marks with
  | nil => simp [finish]
  | cons first rest ih =>
    have hfinish : finish marks (first :: rest) = finish (marks.insert first .done) rest := rfl
    rw [hfinish, ih, Std.TreeMap.getElem?_insert]
    by_cases hsame : first = site
    · simp [hsame]
    · simp [hsame, Ne.symm hsame]

/-- From a listed site one enters a cycle, or it is settled as well. -/
theorem settle_cases (hparents : ParentsIn sites parent?) {marks : Marks}
    (h : Settled parent? marks) (hsite : site ∈ sites) :
    (∃ cyclic, settle parent? (sites.length + 1) marks site = .error (.cycle cyclic) ∧
      Enters parent? site cyclic) ∨
    ∃ marks', settle parent? (sites.length + 1) marks site = .ok marks' ∧
      Settled parent? marks' ∧ Grounded parent? site := by
  have hstart : Following sites parent? site marks [] (some site) := by
    refine ⟨fun other hother => (h other _ hother).2, ?_, List.nodup_nil, List.nil_subset _, ?_,
      List.isChain_singleton site, rfl⟩
    · intro other
      refine ⟨?_, by simp⟩
      intro hother
      cases (h other _ hother).1
    · rintro _ ⟨⟩
      exact hsite
  have hturns : sites.length < ([] : List SiteId).length + (sites.length + 1) := by simp
  unfold settle
  rcases follow_cases hparents hstart hturns with
    ⟨cyclic, hrun, hcyclic⟩ | ⟨marks', path, hrun, hfollowed⟩
  · rw [hrun]
    exact .inl ⟨cyclic, rfl, hcyclic⟩
  · rw [hrun]
    refine .inr ⟨finish marks' path, rfl, ?_, hfollowed.next site rfl⟩
    intro other mark hmark
    rw [getElem?_finish] at hmark
    split at hmark
    · rename_i hmem
      exact ⟨(Option.some.inj hmark).symm, (hfollowed.path other hmem).resolve_left (by simp)⟩
    · rename_i hmem
      exact (hfollowed.marks other mark hmark).resolve_left hmem

/-- From one site after the other one enters a cycle from the first of them that is not grounded, or
all of them are. -/
theorem foldlM_settle_cases (hparents : ParentsIn sites parent?) {starts : List SiteId}
    (hlisted : starts ⊆ sites) {marks : Marks} (h : Settled parent? marks) :
    (∃ before start after cyclic, starts = before ++ start :: after ∧
      (∀ site ∈ before, Grounded parent? site) ∧ Enters parent? start cyclic ∧
      starts.foldlM (settle parent? (sites.length + 1)) marks = .error (.cycle cyclic)) ∨
    ∃ marks', starts.foldlM (settle parent? (sites.length + 1)) marks = .ok marks' ∧
      ∀ site ∈ starts, Grounded parent? site := by
  induction starts generalizing marks with
  | nil => exact .inr ⟨marks, rfl, by simp⟩
  | cons first rest ih =>
    obtain ⟨hfirst, hrest⟩ := List.cons_subset.mp hlisted
    rw [List.foldlM_cons]
    rcases settle_cases hparents h hfirst with
      ⟨cyclic, hrun, henters⟩ | ⟨marks', hrun, hsettled, hgrounded⟩
    · rw [hrun]
      exact .inl ⟨[], first, rest, cyclic, rfl, by simp, henters, rfl⟩
    · rw [hrun]
      rcases ih hrest hsettled with
        ⟨before, start, after, cyclic, rfl, hbefore, henters, hlater⟩ |
        ⟨marks'', hlater, hgroundeds⟩
      · exact .inl ⟨first :: before, start, after, cyclic, rfl,
          List.forall_mem_cons.mpr ⟨hgrounded, hbefore⟩, henters, hlater⟩
      · exact .inr ⟨marks'', hlater, List.forall_mem_cons.mpr ⟨hgrounded, hgroundeds⟩⟩

/-- The search finds the site at which a cycle is entered from the first site that is not grounded,
or every site is grounded. -/
theorem detectCycle_cases (hparents : ParentsIn sites parent?) :
    (∃ before start after cyclic, sites = before ++ start :: after ∧
      (∀ site ∈ before, Grounded parent? site) ∧ Enters parent? start cyclic ∧
      detectCycle sites parent? = .error (.cycle cyclic)) ∨
    detectCycle sites parent? = .ok () ∧ ∀ site ∈ sites, Grounded parent? site := by
  have hunmarked : Settled parent? ∅ := by simp [Settled]
  unfold detectCycle
  rcases foldlM_settle_cases hparents (List.Subset.refl _) hunmarked with
    ⟨before, start, after, cyclic, hsplit, hbefore, henters, hrun⟩ | ⟨marks, hrun, hgrounded⟩
  · rw [hrun]
    exact .inl ⟨before, start, after, cyclic, hsplit, hbefore, henters, rfl⟩
  · rw [hrun]
    exact .inr ⟨rfl, hgrounded⟩

end SiteHierarchy
end TenantAccess
