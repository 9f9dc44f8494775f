import TenantAccess.Proofs.Access.Answer
import TenantAccess.Proofs.Access.Precedence
import TenantAccess.World

/-!
# The order in which a store returns memberships

A store may return the memberships of a principal in any order; resolving sorts them first.  Where
no two of them tie, the sorted list is the same for every order, and resolving has nothing else to
go by.

* `RoleGrantRecord.byPrecedence_perm`: sorting without ties gives one list.
* `AccessResolver.returning`: a resolver whose store returns given memberships in a given order.
* `compute_returning`: what it computes depends on the sorted memberships only.
* `resolve_returning_perm`: so it resolves in the same way for every order.
-/

namespace TenantAccess

/-! ### Sorting without ties -/

namespace RoleGrantRecord

/-- What decides which of two memberships comes first. -/
def rankedBy (record : RoleGrantRecord) : Bool × Timestamp := (record.isPrimary, record.createdAt)

/-- Memberships that are ahead of each other tie. -/
theorem rankedBy_eq_of_ahead {a b : RoleGrantRecord} (h : a.ahead b = true)
    (h' : b.ahead a = true) : a.rankedBy = b.rankedBy := by
  unfold ahead at h h'
  rw [precedes_iff] at h h'
  rcases h with ⟨ha, hb⟩ | ⟨hprimary, hle⟩
  · rw [ha, hb] at h'
    simp at h'
  · rw [hprimary] at h'
    have hle' : b.createdAt.le a.createdAt = true := by simpa using h'
    exact Prod.ext hprimary (Timestamp.eq_of_le_of_le hle hle')

/-- Without ties the sorted memberships are the same whatever order they were in. -/
theorem byPrecedence_perm {records shuffled : List RoleGrantRecord} (h : records.Perm shuffled)
    (hties : (records.map rankedBy).Nodup) : byPrecedence shuffled = byPrecedence records := by
  rw [byPrecedence_eq, byPrecedence_eq]
  apply List.Perm.eq_of_pairwise
  · intro a b ha hb hahead hbehind
    have hmem : a ∈ records := h.mem_iff.mpr (List.mem_mergeSort.mp ha)
    have hmem' : b ∈ records := List.mem_mergeSort.mp hb
    exact List.inj_on_of_nodup_map hties hmem hmem' (rankedBy_eq_of_ahead hahead hbehind)
  · exact List.pairwise_mergeSort ahead_trans ahead_total shuffled
  · exact List.pairwise_mergeSort ahead_trans ahead_total records
  · calc (shuffled.mergeSort ahead).Perm shuffled := List.mergeSort_perm _ _
      _ |>.Perm records := h.symm
      _ |>.Perm (records.mergeSort ahead) := (List.mergeSort_perm _ _).symm

end RoleGrantRecord

/-! ### Stores that return the memberships in some order -/

variable {σ : Type}

/-- The store with the given memberships of a principal, which it returns in the given order. -/
def MembershipStore.returning (store : MembershipStore σ) (principal : IdpId)
    (records : List RoleGrantRecord) : MembershipStore σ :=
  { store with grantsFor := fun other around => do
      let answer ← store.grantsFor other around
      return if other = principal then .ok records else answer }

namespace AccessResolver

/-- The resolver with such a store. -/
def returning (resolver : AccessResolver σ) (principal : IdpId) (records : List RoleGrantRecord) :
    AccessResolver σ :=
  { resolver with platform :=
      { resolver.platform with store := resolver.platform.store.returning principal records } }

variable (resolver : AccessResolver σ) (principal : Principal) (requested : RequestedTenant)

/-- The store is read as before, and answers with the given memberships. -/
theorem read_returning (s : AccessState σ) : ∃ t, ∀ records : List RoleGrantRecord,
    (resolver.returning principal.idpId records).read (·.grantsFor principal.idpId) s =
      (.ok records, t) := by
  refine ⟨{ s with world :=
    (resolver.platform.store.grantsFor principal.idpId s.around s.world).2 }, fun records => ?_⟩
  show (Except.mapError AccessError.store
    (if principal.idpId = principal.idpId then .ok records else _), _) = _
  rw [if_pos rfl]
  rfl

/-- What is computed depends on the sorted memberships only. -/
theorem compute_returning {records shuffled : List RoleGrantRecord}
    (h : RoleGrantRecord.byPrecedence shuffled = RoleGrantRecord.byPrecedence records) :
    (resolver.returning principal.idpId shuffled).compute principal requested =
      (resolver.returning principal.idpId records).compute principal requested := by
  funext s
  obtain ⟨t, hread⟩ := resolver.read_returning principal s
  unfold compute
  rw [Task.bind_ok (hread shuffled), Task.bind_ok (hread records), h]
  -- nothing else that resolving does reads the memberships
  rfl

/-- Where no two memberships of the principal tie, resolving comes to the same for every order in
which the store returns them: the same outcome, and the same state after it. -/
theorem resolve_returning_perm {records shuffled : List RoleGrantRecord}
    (h : records.Perm shuffled) (hties : (records.map RoleGrantRecord.rankedBy).Nodup)
    (s : AccessState σ) :
    (resolver.returning principal.idpId shuffled).resolve principal requested s =
      (resolver.returning principal.idpId records).resolve principal requested s := by
  unfold resolve
  rw [resolver.compute_returning principal requested (RoleGrantRecord.byPrecedence_perm h hties)]

end AccessResolver

/-- Ann is at home in the first client and a guest in the second one: with a request that names no
client she lands in the first, in whichever order her memberships come. -/
theorem resolve_returning_home_and_guest :
    let ann := Principal.unnamed ⟨"ann"⟩ "ann@example.org" "ann"
    let guest : RoleGrantRecord := { (default : RoleGrantRecord) with
      clientId := .ofNat 2, roleId := .ofNat 22, scope := .client, capabilities := ⟨2⟩ }
    let home : RoleGrantRecord := { (default : RoleGrantRecord) with
      clientId := .ofNat 1, roleId := .ofNat 21, scope := .client, capabilities := ⟨1⟩,
      isPrimary := true }
    let resolver := MembershipTables.resolver World.inMemory []
    let s : AccessState (MembershipTables × World) := { world :=
      ({ clients := ⟨[(.ofNat 1, .legacy), (.ofNat 2, .legacy)]⟩ }, { listener := default }) }
    ([guest, home].map RoleGrantRecord.rankedBy).Nodup ∧ [guest, home].Perm [home, guest] ∧
      ((resolver.returning ann.idpId [guest, home]).resolve ann .default s).1 =
        .ok ⟨.client, ⟨3⟩, some (.ofNat 1), none, .stored (.ofNat 21)⟩ ∧
      (resolver.returning ann.idpId [home, guest]).resolve ann .default s =
        (resolver.returning ann.idpId [guest, home]).resolve ann .default s := by
  intro ann guest home resolver s
  have hties : ([guest, home].map RoleGrantRecord.rankedBy).Nodup := by decide
  have hperm : [guest, home].Perm [home, guest] := .swap home guest []
  refine ⟨hties, hperm, by cbv, ?_⟩
  exact resolver.resolve_returning_perm ann .default hperm hties s

end TenantAccess
