import Mathlib
import TenantAccess.Grant

/-!
# What a reduction of memberships comes to

`EffectiveGrant.reduce?` goes through the memberships once and lets a strictly broader one take the
place of the grant so far.

* `FirstBroadest`: the membership that is left in the end, the first one of the broadest scope.
* `CapabilitySet.unionOf`: the capabilities that are left in the end.
* `reduces_of_reduce?`: the grant is that membership with these capabilities.
-/

namespace TenantAccess

/-! ### Scopes -/

namespace Scope

/-- A scope reaches at least as far as another one when its rank is no smaller. -/
theorem atLeast_iff (a b : Scope) : a.atLeast b = true ↔ b.rank ≤ a.rank := by
  simp [atLeast]

/-- A scope is broader than another one when its rank is greater. -/
theorem broader_iff (a b : Scope) : a.broader b = true ↔ b.rank < a.rank := by
  simp [broader]

end Scope

/-! ### Unions of several sets -/

namespace CapabilitySet

/-- The members of any of the sets. -/
def unionOf (sets : List CapabilitySet) : CapabilitySet := sets.foldl union empty

/-- A bit is set after joining sets to a first one when it is set in that or in one of them. -/
theorem getLsbD_foldl_union (sets : List CapabilitySet) (start : CapabilitySet) (i : Nat) :
    (sets.foldl union start).bits.getLsbD i =
      (start.bits.getLsbD i || sets.any (·.bits.getLsbD i)) := by
  induction sets generalizing start with
  | nil => simp
  | cons set sets ih =>
    rw [List.foldl_cons, ih, List.any_cons, ← Bool.or_assoc]
    simp [union]

/-- A bit is set in the union when it is set in one of the sets. -/
theorem getLsbD_unionOf (sets : List CapabilitySet) (i : Nat) :
    (unionOf sets).bits.getLsbD i = sets.any (·.bits.getLsbD i) := by
  unfold unionOf
  rw [getLsbD_foldl_union]
  simp [empty]

/-- Starting from a set is having it as the first one. -/
theorem foldl_union (sets : List CapabilitySet) (first : CapabilitySet) :
    sets.foldl union first = unionOf (first :: sets) := by
  unfold unionOf
  rw [List.foldl_cons]
  congr 1
  simp [union, empty]

/-- The order of the sets and how often one occurs do not matter. -/
theorem unionOf_congr {sets others : List CapabilitySet} (h : ∀ set, set ∈ sets ↔ set ∈ others) :
    unionOf sets = unionOf others := by
  have hbits : (unionOf sets).bits = (unionOf others).bits := by
    apply BitVec.eq_of_getLsbD_eq
    intro i _
    rw [getLsbD_unionOf, getLsbD_unionOf, Bool.eq_iff_iff]
    simp only [List.any_eq_true, h]
  exact congrArg CapabilitySet.mk hbits

end CapabilitySet

/-! ### The membership that is left -/

namespace RoleGrantRecord

/-- The membership is the first one of the broadest scope: those before it are narrower and those
after it are not broader. -/
def FirstBroadest (records : List RoleGrantRecord) (record : RoleGrantRecord) : Prop :=
  ∃ earlier later, records = earlier ++ record :: later ∧
    (∀ other ∈ earlier, record.scope.broader other.scope = true) ∧
    ∀ other ∈ later, record.scope.atLeast other.scope = true

namespace FirstBroadest

variable {records : List RoleGrantRecord} {record next : RoleGrantRecord}

/-- No membership has a broader scope than the first one of the broadest. -/
theorem atLeast (h : FirstBroadest records record) {other : RoleGrantRecord}
    (hother : other ∈ records) : record.scope.atLeast other.scope = true := by
  obtain ⟨earlier, later, rfl, hearlier, hlater⟩ := h
  rw [List.mem_append, List.mem_cons] at hother
  rcases hother with hother | rfl | hother
  · have := hearlier other hother
    rw [Scope.broader_iff] at this
    rw [Scope.atLeast_iff]
    omega
  · exact (Scope.atLeast_iff _ _).mpr (Nat.le_refl _)
  · exact hlater other hother

/-- One more membership that is not broader changes nothing. -/
theorem append_narrow (h : FirstBroadest records record)
    (hnext : next.scope.broader record.scope = false) :
    FirstBroadest (records ++ [next]) record := by
  obtain ⟨earlier, later, rfl, hearlier, hlater⟩ := h
  refine ⟨earlier, later ++ [next], by simp, hearlier, ?_⟩
  intro other hother
  rw [List.mem_append, List.mem_singleton] at hother
  rcases hother with hother | rfl
  · exact hlater other hother
  · rw [Scope.atLeast_iff]
    simpa [Scope.broader] using hnext

/-- One more membership that is broader is now the one. -/
theorem append_broad (h : FirstBroadest records record)
    (hnext : next.scope.broader record.scope = true) :
    FirstBroadest (records ++ [next]) next := by
  refine ⟨records, [], rfl, ?_, by simp⟩
  intro other hother
  have hle := h.atLeast hother
  rw [Scope.atLeast_iff] at hle
  rw [Scope.broader_iff] at hnext ⊢
  omega

end FirstBroadest
end RoleGrantRecord

/-! ### The reduction -/

/-- The grant is that of the first membership of the broadest scope, with the capabilities of
all. -/
structure Reduces (records : List RoleGrantRecord) (record : RoleGrantRecord)
    (grant : EffectiveGrant) : Prop where
  first : RoleGrantRecord.FirstBroadest records record
  scope : grant.scope = record.scope
  clientId : grant.clientId = some record.clientId
  siteId : grant.siteId = record.siteId
  role : grant.role = .stored record.roleId
  capabilities : grant.capabilities = .unionOf (records.map (·.capabilities))

namespace Reduces

variable {records : List RoleGrantRecord} {record next : RoleGrantRecord} {grant : EffectiveGrant}

/-- A single membership comes to its own grant. -/
theorem single (record : RoleGrantRecord) : Reduces [record] record (.ofRecord record) where
  first := ⟨[], [], rfl, by simp, by simp⟩
  scope := rfl
  clientId := rfl
  siteId := rfl
  role := rfl
  capabilities := CapabilitySet.foldl_union [] record.capabilities

/-- One more membership keeps or takes the place of the one so far. -/
theorem widen (h : Reduces records record grant) (next : RoleGrantRecord) :
    ∃ record', Reduces (records ++ [next]) record' (grant.widen next) := by
  have hcapabilities : grant.capabilities.union next.capabilities =
      .unionOf ((records ++ [next]).map (·.capabilities)) := by
    rw [h.capabilities, List.map_append]
    unfold CapabilitySet.unionOf
    rw [List.foldl_append]
    rfl
  unfold EffectiveGrant.widen
  rw [h.scope]
  split
  · rename_i hbroad
    exact ⟨next, h.first.append_broad hbroad, rfl, rfl, rfl, rfl, hcapabilities⟩
  · rename_i hnarrow
    rw [Bool.not_eq_true] at hnarrow
    exact ⟨record, h.first.append_narrow hnarrow, rfl, h.clientId, h.siteId, h.role,
      hcapabilities⟩

/-- So do several. -/
theorem foldl_widen (rest : List RoleGrantRecord) (h : Reduces records record grant) :
    ∃ record', Reduces (records ++ rest) record' (rest.foldl EffectiveGrant.widen grant) := by
  induction rest generalizing records record grant with
  | nil =>
    rw [List.append_nil]
    exact ⟨record, h⟩
  | cons next rest ih =>
    obtain ⟨record', h'⟩ := h.widen next
    obtain ⟨record'', h''⟩ := ih h'
    rw [List.append_assoc] at h''
    exact ⟨record'', h''⟩

end Reduces

/-- A reduction gives the first membership of the broadest scope with the capabilities of all. -/
theorem reduces_of_reduce? {records : List RoleGrantRecord} {grant : EffectiveGrant}
    (h : EffectiveGrant.reduce? records = some grant) : ∃ record, Reduces records record grant := by
  unfold EffectiveGrant.reduce? at h
  rcases records with _ | ⟨first, rest⟩
  · cases h
  · obtain rfl := Option.some.inj h
    exact (Reduces.single first).foldl_widen rest

/-- A reduction is attributed to a stored role. -/
theorem isEphemeral_of_reduce? {records : List RoleGrantRecord} {grant : EffectiveGrant}
    (h : EffectiveGrant.reduce? records = some grant) : grant.isEphemeral = false := by
  obtain ⟨record, h⟩ := reduces_of_reduce? h
  unfold EffectiveGrant.isEphemeral
  rw [h.role]
  rfl

end TenantAccess
