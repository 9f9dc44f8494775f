import Mathlib
import TenantAccess.Membership

/-!
# Precedence among memberships and sites

Memberships are sorted primary first and then oldest first, and those that tie keep their order.

* `Timestamp.le_iff`, `precedes_iff`: the order in plain terms.
* `RoleGrantRecord.first_of_byPrecedence`: the first membership with a property in the sorted list
  is, in the unsorted one, preceded by no other with the property, and of those that tie with it
  it comes first.
* `RoleGrantRecord.filter_byPrecedence`: sorting and then picking is picking and then sorting.
* `SiteRecord.head_byPrecedence`: the head of the sorted sites comes before every other site.
-/

namespace TenantAccess

/-! ### The order -/

/-- The earlier second comes first, then the earlier nanosecond. -/
theorem Timestamp.le_iff (s t : Timestamp) :
    s.le t = true ↔ s.seconds < t.seconds ∨ s.seconds = t.seconds ∧ s.nanos ≤ t.nanos := by
  unfold Timestamp.le Timestamp.compare
  rcases Int.lt_trichotomy s.seconds t.seconds with h | h | h
  · simp [Int.compare_eq_lt.mpr h, h]
  · simp [h, Nat.isLE_compare]
  · have hne : ¬s.seconds < t.seconds := by omega
    have hne' : s.seconds ≠ t.seconds := by omega
    simp [Int.compare_eq_gt.mpr h, hne, hne']

/-- Points in time that are not after each other are the same. -/
theorem Timestamp.eq_of_le_of_le {s t : Timestamp} (h : s.le t = true) (h' : t.le s = true) :
    s = t := by
  rw [Timestamp.le_iff] at h h'
  obtain ⟨a, b⟩ := s
  obtain ⟨c, d⟩ := t
  simp only [Timestamp.mk.injEq] at *
  omega

/-- Of two points in time one is not after the other. -/
theorem Timestamp.le_total (s t : Timestamp) : s.le t = true ∨ t.le s = true := by
  simp only [Timestamp.le_iff]
  omega

/-- The order of points in time is transitive. -/
theorem Timestamp.le_trans {s t u : Timestamp} (h : s.le t = true) (h' : t.le u = true) :
    s.le u = true := by
  simp only [Timestamp.le_iff] at *
  omega

/-- Primary before others, then older before newer. -/
theorem precedes_iff (a b : Bool) (s t : Timestamp) :
    precedes a s b t = true ↔ a = true ∧ b = false ∨ a = b ∧ s.le t = true := by
  unfold precedes
  rcases a with _ | _ <;> rcases b with _ | _ <;> simp

/-- Of any two one precedes the other. -/
theorem precedes_total (a b : Bool) (s t : Timestamp) :
    (precedes a s b t || precedes b t a s) = true := by
  simp only [Bool.or_eq_true, precedes_iff, Timestamp.le_iff]
  rcases a with _ | _ <;> rcases b with _ | _ <;> simp <;> omega

/-- Preceding is transitive. -/
theorem precedes_trans {a b c : Bool} {s t u : Timestamp} (h : precedes a s b t = true)
    (h' : precedes b t c u = true) : precedes a s c u = true := by
  simp only [precedes_iff, Timestamp.le_iff] at h h' ⊢
  rcases a with _ | _ <;> rcases b with _ | _ <;> rcases c with _ | _ <;> simp at h h' ⊢ <;> omega

/-! ### Memberships -/

namespace RoleGrantRecord

/-- The membership is at least as far in front as the other one: primary before others, then older
before newer. -/
def ahead (a b : RoleGrantRecord) : Bool :=
  precedes a.isPrimary a.createdAt b.isPrimary b.createdAt

/-- Of two memberships one is at least as far in front. -/
theorem ahead_total (a b : RoleGrantRecord) : (a.ahead b || b.ahead a) = true :=
  precedes_total _ _ _ _

/-- Being at least as far in front is transitive. -/
theorem ahead_trans (a b c : RoleGrantRecord) (h : a.ahead b = true) (h' : b.ahead c = true) :
    a.ahead c = true :=
  precedes_trans h h'

/-- Sorting by precedence is sorting by which membership is ahead. -/
theorem byPrecedence_eq (records : List RoleGrantRecord) :
    byPrecedence records = records.mergeSort ahead := rfl

/-- Sorting neither adds nor loses a membership. -/
theorem mem_byPrecedence {record : RoleGrantRecord} {records : List RoleGrantRecord} :
    record ∈ byPrecedence records ↔ record ∈ records := by
  rw [byPrecedence_eq]
  exact List.mem_mergeSort

/-- Only no memberships are none when they are sorted. -/
theorem byPrecedence_eq_nil {records : List RoleGrantRecord} :
    byPrecedence records = [] ↔ records = [] := by
  rw [byPrecedence_eq, ← List.length_eq_zero_iff, List.length_mergeSort, List.length_eq_zero_iff]

/-- Sorting again changes nothing. -/
theorem byPrecedence_byPrecedence (records : List RoleGrantRecord) :
    byPrecedence (byPrecedence records) = byPrecedence records := by
  rw [byPrecedence_eq, byPrecedence_eq]
  exact List.mergeSort_of_pairwise (List.pairwise_mergeSort ahead_trans ahead_total records)

/-- The membership leads those with a property: it has the property itself, every earlier one with
it is strictly behind, and every later one with it is not ahead. -/
def Leads (records : List RoleGrantRecord) (P : RoleGrantRecord → Prop)
    (record : RoleGrantRecord) : Prop :=
  P record ∧ ∃ earlier later, records = earlier ++ record :: later ∧
    (∀ other ∈ earlier, P other → other.ahead record = false) ∧
    ∀ other ∈ later, P other → record.ahead other = true

/-- A membership that leads is one of the list. -/
theorem Leads.mem {records : List RoleGrantRecord} {P : RoleGrantRecord → Prop}
    {record : RoleGrantRecord} (h : Leads records P record) : record ∈ records := by
  obtain ⟨-, earlier, later, rfl, -, -⟩ := h
  simp

/-- The numbered memberships sorted so that ties are decided by the numbers. -/
theorem pairwise_zipIdx (records : List RoleGrantRecord) :
    (records.zipIdx.mergeSort (List.zipIdxLE ahead)).Pairwise
      fun a b => List.zipIdxLE ahead a b = true :=
  List.pairwise_mergeSort (List.zipIdxLE_trans ahead_trans) (List.zipIdxLE_total ahead_total) _

/-- A numbered membership comes before another one only when it is ahead of it. -/
theorem ahead_of_zipIdxLE {a b : RoleGrantRecord} {i j : Nat}
    (h : List.zipIdxLE ahead (a, i) (b, j) = true) : a.ahead b = true := by
  simp only [List.zipIdxLE] at h
  split at h
  · assumption
  · cases h

/-- It comes before one with a smaller number only when that one is not ahead of it. -/
theorem not_ahead_of_zipIdxLE {a b : RoleGrantRecord} {i j : Nat}
    (h : List.zipIdxLE ahead (a, i) (b, j) = true) (hlt : j < i) : b.ahead a = false := by
  apply Bool.eq_false_iff.mpr
  intro hahead
  simp only [List.zipIdxLE, ahead_of_zipIdxLE h, hahead, if_true, decide_eq_true_eq] at h
  omega

/-- The first one with a property in the sorted list has a number, with which it comes before every
other one that has the property. -/
theorem exists_number_of_byPrecedence {records before after : List RoleGrantRecord}
    {record : RoleGrantRecord} {P : RoleGrantRecord → Prop}
    (hsorted : byPrecedence records = before ++ record :: after)
    (hbefore : ∀ other ∈ before, ¬P other) :
    ∃ i, records[i]? = some record ∧ ∀ other j, records[j]? = some other → P other → j ≠ i →
      List.zipIdxLE ahead (record, i) (other, j) = true := by
  have hzip : (records.zipIdx.mergeSort (List.zipIdxLE ahead)).map (·.1) =
      before ++ record :: after := by
    rw [List.mergeSort_zipIdx, ← byPrecedence_eq, hsorted]
  obtain ⟨zbefore, zrest, hz, hzbefore, hzrest⟩ := List.map_eq_append_iff.mp hzip
  obtain ⟨⟨first, i⟩, zafter, rfl, hfirst, hzafter⟩ := List.map_eq_cons_iff.mp hzrest
  obtain rfl : record = first := hfirst.symm
  have hpair := pairwise_zipIdx records
  rw [hz, List.pairwise_append, List.pairwise_cons] at hpair
  have hmem : ∀ entry, entry ∈ zbefore ++ (record, i) :: zafter ↔ entry ∈ records.zipIdx := by
    intro entry
    rw [← hz]
    exact List.mem_mergeSort
  refine ⟨i, List.mem_zipIdx_iff_getElem?.mp ((hmem (record, i)).mp (by simp)), ?_⟩
  intro other j hj hP hne
  have hentry := (hmem (other, j)).mpr (List.mem_zipIdx_iff_getElem?.mpr hj)
  rw [List.mem_append, List.mem_cons] at hentry
  rcases hentry with h | h | h
  · -- what stands in front of it does not have the property
    have hother : other ∈ before := by
      rw [← hzbefore]
      exact List.mem_map.mpr ⟨_, h, rfl⟩
    exact absurd hP (hbefore other hother)
  · exact absurd (Prod.mk.inj h).2 hne
  · exact hpair.2.1.1 _ h

/-- The first one with a property in the sorted list leads in the unsorted one. -/
theorem first_of_byPrecedence {records before after : List RoleGrantRecord}
    {record : RoleGrantRecord} {P : RoleGrantRecord → Prop}
    (hsorted : byPrecedence records = before ++ record :: after) (hrecord : P record)
    (hbefore : ∀ other ∈ before, ¬P other) : Leads records P record := by
  obtain ⟨i, hi, hfirst⟩ := exists_number_of_byPrecedence hsorted hbefore
  obtain ⟨hlt, hget⟩ := List.getElem?_eq_some_iff.mp hi
  refine ⟨hrecord, records.take i, records.drop (i + 1), ?_, ?_, ?_⟩
  · rw [← hget, List.getElem_cons_drop, List.take_append_drop]
  · intro other hother hP
    obtain ⟨j, hj, hother⟩ := List.mem_take_iff_getElem.mp hother
    have hplace : records[j]? = some other := List.getElem?_eq_some_iff.mpr ⟨by omega, hother⟩
    have hbehind : j < i := by omega
    exact not_ahead_of_zipIdxLE (hfirst other j hplace hP (by omega)) hbehind
  · intro other hother hP
    obtain ⟨j, hj, hother⟩ := List.mem_drop_iff_getElem.mp hother
    have hplace : records[i + 1 + j]? = some other :=
      List.getElem?_eq_some_iff.mpr ⟨by omega, hother⟩
    exact ahead_of_zipIdxLE (hfirst other (i + 1 + j) hplace hP (by omega))

/-- Sorting one membership more puts it where those end that it is not ahead of. -/
theorem byPrecedence_cons (record : RoleGrantRecord) (records : List RoleGrantRecord) :
    ∃ front back, byPrecedence (record :: records) = front ++ record :: back ∧
      byPrecedence records = front ++ back ∧
      (∀ other ∈ front, (!record.ahead other) = true) ∧
      ∀ other ∈ back, record.ahead other = true := by
  obtain ⟨front, back, hall, hrest, hfront⟩ :=
    List.mergeSort_cons ahead_trans ahead_total record records
  have hpair := List.pairwise_mergeSort ahead_trans ahead_total (record :: records)
  rw [hall, List.pairwise_append, List.pairwise_cons] at hpair
  exact ⟨front, back, hall, hrest, hfront, hpair.2.1.1⟩

/-- The place of a membership in a list is given by those it is not ahead of. -/
theorem takeWhile_not_ahead {record : RoleGrantRecord} {front back : List RoleGrantRecord}
    (hfront : ∀ other ∈ front, (!record.ahead other) = true)
    (hback : ∀ other ∈ back, record.ahead other = true) :
    (front ++ back).takeWhile (fun other => !record.ahead other) = front := by
  rw [List.takeWhile_append_of_pos hfront]
  rcases back with _ | ⟨other, rest⟩
  · simp
  · rw [List.takeWhile_cons_of_neg (by simp [hback other (by simp)]), List.append_nil]

/-- Sorting and then picking is picking and then sorting. -/
theorem filter_byPrecedence (test : RoleGrantRecord → Bool) (records : List RoleGrantRecord) :
    (byPrecedence records).filter test = byPrecedence (records.filter test) := by
  induction records with
  | nil => simp [byPrecedence_eq]
  | cons record records ih =>
    obtain ⟨front, back, hall, hrest, hfront, hback⟩ := byPrecedence_cons record records
    rw [hrest, List.filter_append] at ih
    rw [hall, List.filter_append]
    rcases ht : test record with _ | _
    · rw [List.filter_cons_of_neg (by simp [ht]), List.filter_cons_of_neg (by simp [ht]), ih]
    · rw [List.filter_cons_of_pos ht, List.filter_cons_of_pos ht]
      obtain ⟨front', back', hall', hrest', hfront', hback'⟩ :=
        byPrecedence_cons record (records.filter test)
      -- both ways the membership is put where those that it is not ahead of end
      have hcut := takeWhile_not_ahead hfront' hback'
      rw [← hrest', ← ih, takeWhile_not_ahead
        (fun other hother => hfront other (List.mem_filter.mp hother).1)
        (fun other hother => hback other (List.mem_filter.mp hother).1)] at hcut
      rw [← ih, hcut] at hrest'
      rw [hall', ← hcut, List.append_cancel_left hrest']

end RoleGrantRecord

/-! ### Sites -/

namespace SiteRecord

/-- The site comes before the other one or is it: primary before others, then older before newer,
then the smaller identifier. -/
def NotAfter (a b : SiteRecord) : Prop :=
  a.isPrimary = true ∧ b.isPrimary = false ∨
    a.isPrimary = b.isPrimary ∧ (a.createdAt ≠ b.createdAt ∧ a.createdAt.le b.createdAt = true ∨
      a.createdAt = b.createdAt ∧ a.id ≤ b.id)

/-- The comparison by which sites are sorted. -/
def before (a b : SiteRecord) : Bool :=
  if a.isPrimary = b.isPrimary ∧ a.createdAt = b.createdAt then decide (a.id ≤ b.id)
  else precedes a.isPrimary a.createdAt b.isPrimary b.createdAt

/-- Sorting by precedence is sorting by the comparison of sites. -/
theorem byPrecedence_eq (sites : List SiteRecord) : byPrecedence sites = sites.mergeSort before :=
  rfl

/-- The comparison says that a site comes before the other one or is it. -/
theorem before_iff (a b : SiteRecord) : a.before b = true ↔ a.NotAfter b := by
  unfold before NotAfter
  split
  · rename_i h
    simp [h.1, h.2]
  · rename_i h
    rw [precedes_iff]
    by_cases hp : a.isPrimary = b.isPrimary
    · have hc : a.createdAt ≠ b.createdAt := fun hc => h ⟨hp, hc⟩
      simp [hp, hc]
    · simp [hp]

/-- Of two sites one is not after the other. -/
theorem before_total (a b : SiteRecord) : (a.before b || b.before a) = true := by
  simp only [Bool.or_eq_true, before_iff]
  unfold NotAfter
  by_cases hp : a.isPrimary = b.isPrimary
  · by_cases hc : a.createdAt = b.createdAt
    · have hid : a.id ≤ b.id ∨ b.id ≤ a.id := Nat.le_total _ _
      simpa [hp, hc] using hid
    · simpa [hp, hc, Ne.symm hc] using Timestamp.le_total a.createdAt b.createdAt
  · rcases ha : a.isPrimary with _ | _ <;> rcases hb : b.isPrimary with _ | _ <;> simp [ha, hb] at hp ⊢

/-- The order of sites is transitive. -/
theorem before_trans (a b c : SiteRecord) (h : a.before b = true) (h' : b.before c = true) :
    a.before c = true := by
  rw [before_iff] at *
  unfold NotAfter at *
  rcases h with h | ⟨hp, h⟩ <;> rcases h' with h' | ⟨hp', h'⟩
  · simp [h.2] at h'
  · exact .inl ⟨h.1, hp' ▸ h.2⟩
  · exact .inl ⟨hp ▸ h'.1, h'.2⟩
  · refine .inr ⟨hp.trans hp', ?_⟩
    rcases h with ⟨hne, h⟩ | ⟨heq, h⟩ <;> rcases h' with ⟨hne', h'⟩ | ⟨heq', h'⟩
    · refine .inl ⟨?_, Timestamp.le_trans h h'⟩
      intro he
      exact hne (Timestamp.eq_of_le_of_le h (he ▸ h'))
    · exact .inl ⟨heq' ▸ hne, heq' ▸ h⟩
    · exact .inl ⟨heq ▸ hne', heq ▸ h'⟩
    · exact .inr ⟨heq.trans heq', Nat.le_trans h h'⟩

/-- The head of the sorted sites is one of them and comes after none. -/
theorem head_byPrecedence {sites : List SiteRecord} {first : SiteRecord}
    (h : (byPrecedence sites).head? = some first) :
    first ∈ sites ∧ ∀ other ∈ sites, first.NotAfter other := by
  rw [byPrecedence_eq, List.head?_eq_some_iff] at h
  obtain ⟨rest, h⟩ := h
  have hpair := List.pairwise_mergeSort before_trans before_total sites
  rw [h, List.pairwise_cons] at hpair
  have hmem : ∀ other, other ∈ sites ↔ other = first ∨ other ∈ rest := by
    intro other
    have hperm := (List.mergeSort_perm sites before).mem_iff (a := other)
    rw [← hperm, h, List.mem_cons]
  refine ⟨(hmem first).mpr (.inl rfl), ?_⟩
  intro other hother
  rw [← before_iff]
  rcases (hmem other).mp hother with rfl | hrest
  · have := before_total other other
    simpa using this
  · exact hpair.1 other hrest

end SiteRecord
end TenantAccess
