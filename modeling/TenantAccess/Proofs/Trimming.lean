import Mathlib
import TenantAccess.Text.Blank

/-!
# What stands between blanks

Trimming leaves the one part of a text that has only blanks before and after it and neither begins
nor ends with one.

* `trimChars_spec`: what is left is such a part.
* `trimChars_append`: it is the only one.
* `trim_trim`, `nonBlank?_eq_some`: so trimming once is enough.
* `trimChars_cons_of_blank`, `trimChars_append_of_blank`: blanks around a text do not matter.
-/

namespace TenantAccess.Text

section dropping

variable {α : Type} (p : α → Bool) (l : List α)

/-- What is dropped from the beginning of a list has the property, and what is left does not begin
with something that has it. -/
theorem dropWhile_spec :
    ∃ dropped, l = dropped ++ l.dropWhile p ∧ (∀ a ∈ dropped, p a = true) ∧
      ∀ a ∈ (l.dropWhile p).head?, p a = false := by
  refine ⟨l.takeWhile p, List.takeWhile_append_dropWhile.symm, ?_, ?_⟩
  · intro a ha
    exact List.mem_takeWhile_imp ha
  · intro a ha
    have hhead := List.head?_dropWhile_not p l
    rw [Option.mem_def.mp ha] at hhead
    exact hhead

/-- The same at the end of a list. -/
theorem reverse_dropWhile_reverse_spec :
    ∃ dropped, l = (l.reverse.dropWhile p).reverse ++ dropped ∧ (∀ a ∈ dropped, p a = true) ∧
      ∀ a ∈ (l.reverse.dropWhile p).reverse.getLast?, p a = false := by
  obtain ⟨dropped, hsplit, hdropped, hhead⟩ := dropWhile_spec p l.reverse
  refine ⟨dropped.reverse, ?_, ?_, ?_⟩
  · rw [← List.reverse_append, ← hsplit, List.reverse_reverse]
  · intro a ha
    exact hdropped a (List.mem_reverse.mp ha)
  · rwa [List.getLast?_reverse]

/-- Dropping stops where a list goes on with something that does not have the property. -/
theorem dropWhile_append_of_spec {p : α → Bool} {l r : List α} (hall : ∀ a ∈ l, p a = true)
    (hhead : ∀ a ∈ r.head?, p a = false) : (l ++ r).dropWhile p = r := by
  rw [List.dropWhile_append_of_pos hall]
  cases r with
  | nil => rfl
  | cons a r => exact List.dropWhile_cons_of_neg (by simp [hhead a rfl])

end dropping

/-- What trimming leaves stands between blanks, and neither begins nor ends with one. -/
theorem trimChars_spec (cs : List Char) :
    ∃ before after, cs = before ++ trimChars cs ++ after ∧ (∀ c ∈ before, isBlank c = true) ∧
      (∀ c ∈ after, isBlank c = true) ∧ (∀ c ∈ (trimChars cs).head?, isBlank c = false) ∧
      ∀ c ∈ (trimChars cs).getLast?, isBlank c = false := by
  obtain ⟨before, hbefore, hblank, hhead⟩ := dropWhile_spec isBlank cs
  obtain ⟨after, hafter, hblank', hlast⟩ :=
    reverse_dropWhile_reverse_spec isBlank (cs.dropWhile isBlank)
  have htrimmed : cs.dropWhile isBlank = trimChars cs ++ after := hafter
  refine ⟨before, after, ?_, hblank, hblank', ?_, hlast⟩
  · rw [List.append_assoc, ← htrimmed]
    exact hbefore
  · intro c hc
    apply hhead c
    rw [htrimmed, List.head?_append, Option.mem_def.mp hc]
    rfl

/-- Trimming leaves what stands between blanks. -/
theorem trimChars_append {before text after : List Char}
    (hbefore : ∀ c ∈ before, isBlank c = true) (hafter : ∀ c ∈ after, isBlank c = true)
    (hhead : ∀ c ∈ text.head?, isBlank c = false)
    (hlast : ∀ c ∈ text.getLast?, isBlank c = false) :
    trimChars (before ++ text ++ after) = text := by
  unfold trimChars
  rcases text with _ | ⟨c, rest⟩
  · have hblank : (before ++ [] ++ after).dropWhile isBlank = [] := by
      rw [List.append_nil, List.dropWhile_eq_nil_iff]
      intro c hc
      exact (List.mem_append.mp hc).elim (hbefore c) (hafter c)
    rw [hblank]
    rfl
  · have hhead' : ∀ d ∈ (c :: rest ++ after).head?, isBlank d = false := hhead
    rw [List.append_assoc, dropWhile_append_of_spec hbefore hhead', List.reverse_append,
      dropWhile_append_of_spec, List.reverse_reverse]
    · intro d hd
      exact hafter d (List.mem_reverse.mp hd)
    · rwa [List.head?_reverse]

/-- Trimming a second time changes nothing. -/
theorem trim_trim (s : String) : trim (trim s) = trim s := by
  obtain ⟨-, -, -, -, -, hhead, hlast⟩ := trimChars_spec s.toList
  have hagain : trimChars ([] ++ trimChars s.toList ++ []) = trimChars s.toList :=
    trimChars_append (by simp) (by simp) hhead hlast
  rw [List.nil_append, List.append_nil] at hagain
  unfold trim
  rw [String.toList_ofList, hagain]

/-- Trimming leaves nothing of a text that has nothing but blanks. -/
theorem trim_eq_empty {s : String} : trim s = "" ↔ ∀ c ∈ s.toList, isBlank c = true := by
  unfold trim
  rw [String.ofList_eq_empty_iff]
  constructor
  · intro hnil
    obtain ⟨before, after, hsplit, hbefore, hafter, -⟩ := trimChars_spec s.toList
    intro c hc
    rw [hsplit, hnil, List.append_nil, List.mem_append] at hc
    exact hc.elim (hbefore c) (hafter c)
  · intro hblank
    have hall : trimChars (s.toList ++ [] ++ []) = [] :=
      trimChars_append hblank (by simp) (by simp) (by simp)
    rwa [List.append_nil, List.append_nil] at hall

/-- A text that is not blank is trimmed. -/
theorem nonBlank?_eq_some {s t : String} : nonBlank? s = some t ↔ trim s = t ∧ t ≠ "" := by
  unfold nonBlank?
  dsimp only
  split
  · rename_i hempty
    rw [String.isEmpty_iff] at hempty
    constructor
    · intro h
      cases h
    · rintro ⟨rfl, hne⟩
      exact absurd hempty hne
  · rename_i hne
    rw [String.isEmpty_iff] at hne
    constructor
    · intro h
      obtain rfl := Option.some.inj h
      exact ⟨rfl, hne⟩
    · rintro ⟨rfl, -⟩
      rfl

/-! ### Blanks around a text -/

/-- A blank in front is trimmed. -/
theorem trimChars_cons_of_blank {c : Char} (h : isBlank c = true) (cs : List Char) :
    trimChars (c :: cs) = trimChars cs := by
  unfold trimChars
  rw [List.dropWhile_cons_of_pos h]

/-- Blanks after a text are trimmed away. -/
theorem trimChars_append_of_blank {after : List Char} (h : ∀ c ∈ after, isBlank c = true)
    (cs : List Char) : trimChars (cs ++ after) = trimChars cs := by
  obtain ⟨before, after', hsplit, hbefore, hafter', hhead, hlast⟩ := trimChars_spec cs
  calc trimChars (cs ++ after)
      = trimChars (before ++ trimChars cs ++ (after' ++ after)) := by
        rw [← List.append_assoc, ← hsplit]
    _ = trimChars cs := by
        refine trimChars_append hbefore ?_ hhead hlast
        exact List.forall_mem_append.mpr ⟨hafter', h⟩

end TenantAccess.Text
