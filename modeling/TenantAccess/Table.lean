/-!
# Tables

A finite map kept as rows with at most one row for a key.  What a table holds is told by `get?`;
the lemmas say what each change does to it.
-/

namespace TenantAccess

/-- A finite map, newest row first. -/
structure Table (κ α : Type) where
  rows : List (κ × α) := []
deriving Repr

namespace Table

variable {κ α : Type} [BEq κ]

instance : Inhabited (Table κ α) := ⟨{}⟩

/-- The value of a key. -/
def get? (table : Table κ α) (key : κ) : Option α := table.rows.lookup key

/-- The table without a key. -/
def erase (table : Table κ α) (key : κ) : Table κ α := ⟨table.rows.filter fun row => !row.1 == key⟩

/-- The table with a value for a key, in place of the one before. -/
def insert (table : Table κ α) (key : κ) (value : α) : Table κ α :=
  ⟨(key, value) :: (table.erase key).rows⟩

/-- The table with a change made to the value of a key that has one. -/
def adjust (table : Table κ α) (key : κ) (change : α → α) : Table κ α :=
  match table.get? key with
  | some value => table.insert key (change value)
  | none => table

/-- The values of the table. -/
def values (table : Table κ α) : List α := table.rows.map (·.2)

/-- An empty table has no value for any key. -/
@[simp] theorem get?_empty (key : κ) : ({} : Table κ α).get? key = none := rfl

/-- Taking out the rows of one key leaves what is found for every other key. -/
theorem lookup_filter_ne [LawfulBEq κ] (rows : List (κ × α)) (key other : κ) (h : other ≠ key) :
    (rows.filter fun row => !row.1 == key).lookup other = rows.lookup other := by
  induction rows with
  | nil => rfl
  | cons row rest ih =>
    obtain ⟨k, value⟩ := row
    by_cases hk : k = key
    · subst hk
      have hne : (other == k) = false := beq_eq_false_iff_ne.mpr h
      simp only [List.filter_cons, beq_self_eq_true, Bool.not_true, List.lookup_cons, hne]
      exact ih
    · have hne : (k == key) = false := beq_eq_false_iff_ne.mpr hk
      simp only [List.filter_cons, hne, Bool.not_false, if_true, List.lookup_cons, ih]

/-- Once the rows of a key are taken out, nothing is found for it. -/
theorem lookup_filter_self [LawfulBEq κ] (rows : List (κ × α)) (key : κ) :
    (rows.filter fun row => !row.1 == key).lookup key = none := by
  induction rows with
  | nil => rfl
  | cons row rest ih =>
    obtain ⟨k, value⟩ := row
    by_cases hk : k = key
    · subst hk
      simpa [List.filter_cons] using ih
    · have hne : (k == key) = false := beq_eq_false_iff_ne.mpr hk
      have hne' : (key == k) = false := beq_eq_false_iff_ne.mpr fun h => hk h.symm
      simp only [List.filter_cons, hne, Bool.not_false, if_true, List.lookup_cons, hne', ih]

/-- An erased key has no value and the other keys keep theirs. -/
theorem get?_erase [LawfulBEq κ] [DecidableEq κ] (table : Table κ α) (key other : κ) :
    (table.erase key).get? other = if other = key then none else table.get? other := by
  split
  · rename_i h
    subst h
    exact lookup_filter_self table.rows other
  · rename_i h
    exact lookup_filter_ne table.rows key other h

/-- An inserted key has the new value and the other keys keep theirs. -/
theorem get?_insert [LawfulBEq κ] [DecidableEq κ] (table : Table κ α) (key other : κ) (value : α) :
    (table.insert key value).get? other = if other = key then some value else table.get? other := by
  by_cases h : other = key
  · subst h
    simp [insert, get?]
  · have hb : (other == key) = false := beq_eq_false_iff_ne.mpr h
    have he := get?_erase table key other
    simp only [h, if_false] at he
    simp [insert, get?, List.lookup_cons, hb, h] at he ⊢
    exact he

end Table
end TenantAccess
