import TenantAccess.Proofs.Access.Reduction

/-!
# Reductions of memberships can be split anywhere

The memberships can be reduced in parts: the grant of a list is joined from the grants of a first
and a second part, in which the second one counts only where it is strictly broader.

* `EffectiveGrant.join`: the grant of two parts.  Taking one more membership into account is joining
  its own grant (`widen_eq_join`), so that a fold of them is a join (`foldl_widen_join`).
* `reduce?_append`: splitting a list.
* `reduce?_perm`: what does not depend on the order of a list.
* `reduction_splits`: all that a reduction comes to.
-/

namespace TenantAccess

/-! ### Capabilities of a union -/

namespace CapabilitySet

/-- A set has a capability when the bit of the capability is set. -/
theorem has_eq_getLsbD (set : CapabilitySet) (c : Capability) :
    set.has c = set.bits.getLsbD c.index := by
  have hindex : c.index < 64 := by cases c <;> decide
  unfold has Capability.bit
  rw [BitVec.and_twoPow]
  rcases hbit : set.bits.getLsbD c.index with _ | _
  · simp
  · have hne : BitVec.twoPow 64 c.index ≠ 0 := by
      intro hzero
      have := congrArg (·.getLsbD c.index) hzero
      simp [hindex] at this
    simpa using hne

/-- A capability is in the union when it is in one of the sets. -/
theorem has_unionOf (sets : List CapabilitySet) (c : Capability) :
    (unionOf sets).has c = sets.any (·.has c) := by
  simp only [has_eq_getLsbD, getLsbD_unionOf]

/-- Joining sets is associative. -/
theorem union_assoc (a b c : CapabilitySet) : (a.union b).union c = a.union (b.union c) := by
  simp [union, BitVec.or_assoc]

end CapabilitySet

/-! ### Comparing scopes -/

namespace Scope

variable {a b c : Scope}

/-- No two scopes have the same rank. -/
theorem eq_of_rank (h : a.rank = b.rank) : a = b := by
  cases a <;> cases b <;> simp [rank] at h ⊢

/-- Scopes that reach as far as each other are the same. -/
theorem atLeast_antisymm (h : a.atLeast b = true) (h' : b.atLeast a = true) : a = b := by
  rw [atLeast_iff] at h h'
  exact eq_of_rank (by omega)

/-- Being broader is transitive. -/
theorem broader_trans (h : c.broader b = true) (h' : b.broader a = true) : c.broader a = true := by
  rw [broader_iff] at *
  omega

/-- Being no broader is transitive. -/
theorem not_broader_trans (h : c.broader b = false) (h' : b.broader a = false) :
    c.broader a = false := by
  rw [← Bool.not_eq_true, broader_iff] at *
  omega

end Scope

/-! ### Joining grants -/

namespace EffectiveGrant

/-- The grant of two parts: that of the second one when it is strictly broader, else that of the
first one, with the capabilities of both. -/
def join (grant other : EffectiveGrant) : EffectiveGrant :=
  { (if other.scope.broader grant.scope then other else grant) with
    capabilities := grant.capabilities.union other.capabilities }

/-- A broader second grant is the joined one, with the capabilities of both. -/
theorem join_of_broader {grant other : EffectiveGrant}
    (h : other.scope.broader grant.scope = true) :
    grant.join other =
      { other with capabilities := grant.capabilities.union other.capabilities } := by
  simp [join, h]

/-- Otherwise the first grant is the joined one, with the capabilities of both. -/
theorem join_of_not_broader {grant other : EffectiveGrant}
    (h : other.scope.broader grant.scope = false) :
    grant.join other =
      { grant with capabilities := grant.capabilities.union other.capabilities } := by
  simp [join, h]

/-- Taking a membership into account is joining its own grant. -/
theorem widen_eq_join (grant : EffectiveGrant) (record : RoleGrantRecord) :
    grant.widen record = grant.join (ofRecord record) := by
  unfold widen
  rcases h : record.scope.broader grant.scope with _ | _
  · have hjoin : grant.join (ofRecord record) = _ := join_of_not_broader h
    exact hjoin.symm
  · have hjoin : grant.join (ofRecord record) = _ := join_of_broader h
    exact hjoin.symm

/-- The first one of the broadest scope stays, in whatever order three grants are joined. -/
theorem join_assoc (a b c : EffectiveGrant) : (a.join b).join c = a.join (b.join c) := by
  have hunion := CapabilitySet.union_assoc a.capabilities b.capabilities c.capabilities
  rcases hab : b.scope.broader a.scope with _ | _ <;>
    rcases hbc : c.scope.broader b.scope with _ | _
  · have hac := Scope.not_broader_trans hbc hab
    simp [join, hab, hbc, hac, hunion]
  · -- the second one is out, whichever of the others is broader
    rcases hac : c.scope.broader a.scope with _ | _ <;> simp [join, hab, hbc, hac, hunion]
  · simp [join, hab, hbc, hunion]
  · have hac := Scope.broader_trans hbc hab
    simp [join, hab, hbc, hac, hunion]

/-- Memberships after a join are taken into account by its second part. -/
theorem foldl_widen_join (records : List RoleGrantRecord) (grant other : EffectiveGrant) :
    records.foldl widen (grant.join other) = grant.join (records.foldl widen other) := by
  induction records generalizing other with
  | nil => rfl
  | cons record records ih =>
    rw [List.foldl_cons, List.foldl_cons, widen_eq_join, join_assoc, ← widen_eq_join, ih]

/-- Only no memberships have no grant. -/
theorem reduce?_eq_none {records : List RoleGrantRecord} :
    reduce? records = none ↔ records = [] := by
  cases records <;> simp [reduce?]

/-- Some memberships have a grant. -/
theorem exists_reduce? {records : List RoleGrantRecord} (h : records ≠ []) :
    ∃ grant, reduce? records = some grant :=
  Option.ne_none_iff_exists'.mp (mt reduce?_eq_none.mp h)

/-- Reducing a list is joining what its parts are reduced to. -/
theorem reduce?_append (records others : List RoleGrantRecord) :
    reduce? (records ++ others) = Option.merge join (reduce? records) (reduce? others) := by
  rcases records with _ | ⟨first, rest⟩
  · simp [reduce?]
  · rcases others with _ | ⟨next, others⟩
    · simp [reduce?]
    · simp only [reduce?, List.cons_append, List.foldl_append, List.foldl_cons,
        Option.merge_some_some]
      rw [widen_eq_join, foldl_widen_join]

end EffectiveGrant

/-! ### Reordering -/

variable {records others : List RoleGrantRecord} {grant other : EffectiveGrant}

/-- The scope of a grant is that of one of the memberships, and reaches as far as that of each. -/
theorem Reduces.broadest {record : RoleGrantRecord} (h : Reduces records record grant) :
    (∃ member ∈ records, grant.scope = member.scope) ∧
      ∀ member ∈ records, grant.scope.atLeast member.scope = true := by
  have hmem : record ∈ records := by
    obtain ⟨earlier, later, rfl, -, -⟩ := h.first
    simp
  refine ⟨⟨record, hmem, h.scope⟩, ?_⟩
  intro member hmember
  rw [h.scope]
  exact h.first.atLeast hmember

/-- The scope and the capabilities do not depend on the order of the memberships. -/
theorem Reduces.perm {record record' : RoleGrantRecord} (h : records.Perm others)
    (hrecord : Reduces records record grant) (hrecord' : Reduces others record' other) :
    other.scope = grant.scope ∧ other.capabilities = grant.capabilities := by
  obtain ⟨⟨member, hmember, hscope⟩, hatLeast⟩ := hrecord.broadest
  obtain ⟨⟨member', hmember', hscope'⟩, hatLeast'⟩ := hrecord'.broadest
  constructor
  · apply Scope.atLeast_antisymm
    · rw [hscope]
      exact hatLeast' member (h.mem_iff.mp hmember)
    · rw [hscope']
      exact hatLeast member' (h.mem_iff.mpr hmember')
  · rw [hrecord.capabilities, hrecord'.capabilities]
    apply CapabilitySet.unionOf_congr
    intro set
    exact (h.map _).symm.mem_iff

/-- Nor does it depend on the order whether there is a grant. -/
theorem reduce?_perm (h : records.Perm others) :
    (EffectiveGrant.reduce? others).map (fun grant => (grant.scope, grant.capabilities)) =
      (EffectiveGrant.reduce? records).map fun grant => (grant.scope, grant.capabilities) := by
  rcases hgrant : EffectiveGrant.reduce? records with _ | grant
  · obtain rfl := EffectiveGrant.reduce?_eq_none.mp hgrant
    rw [List.nil_perm.mp h, hgrant]
  · rcases hother : EffectiveGrant.reduce? others with _ | other
    · obtain rfl := EffectiveGrant.reduce?_eq_none.mp hother
      rw [List.perm_nil.mp h] at hgrant
      cases hgrant
    · obtain ⟨record, hrecord⟩ := reduces_of_reduce? hgrant
      obtain ⟨record', hrecord'⟩ := reduces_of_reduce? hother
      obtain ⟨hscope, hcapabilities⟩ := hrecord.perm h hrecord'
      simp [hscope, hcapabilities]

/-! ### All that a reduction comes to -/

/-- Only no memberships have no grant. The grant of some is that of the first one of the broadest
scope, with a capability exactly if one of them has it. A list that is split has the grant of its
first part, or of the second one if that is strictly broader, with the capabilities of both; and in
another order the scope and the capabilities stay. -/
theorem reduction_splits (records : List RoleGrantRecord) :
    (EffectiveGrant.reduce? records = none ↔ records = []) ∧
    (∀ grant, EffectiveGrant.reduce? records = some grant →
      (∃ record, Reduces records record grant) ∧
      (∀ record ∈ records, grant.scope.atLeast record.scope = true) ∧
      ∀ c, grant.can c = records.any (·.capabilities.has c)) ∧
    (∀ front back, records = front ++ back → front ≠ [] → back ≠ [] →
      ∃ grant other, EffectiveGrant.reduce? front = some grant ∧
        EffectiveGrant.reduce? back = some other ∧
        EffectiveGrant.reduce? records = some
          (if other.scope.broader grant.scope
            then { other with capabilities := grant.capabilities.union other.capabilities }
            else { grant with capabilities := grant.capabilities.union other.capabilities })) ∧
    ∀ shuffled, records.Perm shuffled →
      (EffectiveGrant.reduce? shuffled).map (fun grant => (grant.scope, grant.capabilities)) =
        (EffectiveGrant.reduce? records).map fun grant => (grant.scope, grant.capabilities) := by
  refine ⟨EffectiveGrant.reduce?_eq_none, ?_, ?_, ?_⟩
  · intro grant hgrant
    obtain ⟨record, hrecord⟩ := reduces_of_reduce? hgrant
    refine ⟨⟨record, hrecord⟩, hrecord.broadest.2, ?_⟩
    intro c
    unfold EffectiveGrant.can
    rw [hrecord.capabilities, CapabilitySet.has_unionOf, List.any_map]
    rfl
  · rintro front back rfl hfront hback
    obtain ⟨grant, hgrant⟩ := EffectiveGrant.exists_reduce? hfront
    obtain ⟨other, hother⟩ := EffectiveGrant.exists_reduce? hback
    refine ⟨grant, other, hgrant, hother, ?_⟩
    rw [EffectiveGrant.reduce?_append, hgrant, hother, Option.merge_some_some]
    split
    · rename_i hbroader
      rw [EffectiveGrant.join_of_broader hbroader]
    · rename_i hnarrow
      rw [EffectiveGrant.join_of_not_broader (Bool.eq_false_iff.mpr hnarrow)]
  · intro shuffled hperm
    exact reduce?_perm hperm

end TenantAccess
