import Mathlib
import TenantAccess.Text.Lowercase
import TenantAccess.Proofs.Trimming

/-!
# Texts in lower case

The lower-case form of a text is put together from forms of its characters.  No form has a
lower-case form other than itself, and none is blank unless its character is.  So lower-casing a
second time changes nothing, and what was trimmed stays trimmed.

* `CaseRun.clears`, `CaseRun.avoids`: what the table of the mapping is checked for.
* `Settled`: the characters that stay as they are.
* `IsForm`, `following_forms`: a text in lower case, taken apart.
* `lowercase_lowercase`, `trim_lowercase_trim`, `trim_lowercase_of_blank`: what comes of it.
-/

namespace TenantAccess.Text

namespace Lowercase

/-! ### The table -/

/-- No lower-case form of the run is on the other run, as seen from their ends and, where both have
every second code point, from which ones. -/
def CaseRun.clears (run other : CaseRun) : Bool :=
  other.last.blt run.target || (run.target + (run.last - run.first)).blt other.first ||
    (other.step == 2 && (run.step == 2 || run.first == run.last) &&
      (run.target + other.first) % 2 == 1)

/-- Nothing between the ends of the range is on the run or a lower-case form of it. -/
def CaseRun.avoids (run : CaseRun) (range : Nat × Nat) : Bool :=
  (range.2.blt run.first || run.last.blt range.1) &&
    (range.2.blt run.target || (run.target + (run.last - run.first)).blt range.1)

/-- The code points of blanks. -/
def blankRanges : List (Nat × Nat) := [
  (0x09, 0x0D), (0x20, 0x20), (0x85, 0x85), (0xA0, 0xA0), (0x1680, 0x1680), (0x2000, 0x200A),
  (0x2028, 0x2029), (0x202F, 0x202F), (0x205F, 0x205F), (0x3000, 0x3000)]

/-- Code points that no run has to do with: the capital I with dot above, surrogates, and blanks. -/
def uncasedRanges : List (Nat × Nat) :=
  (0x130, 0x130) :: (0xD800, 0xDFFF) :: blankRanges

/-- No run of the table leads to a code point that is on any run. -/
theorem caseRuns_clear : (caseRuns.all fun run => caseRuns.all run.clears) = true := by
  decide +kernel

/-- No run of the table begins or ends in one of the ranges that have no case. -/
theorem caseRuns_avoid : (caseRuns.all fun run => uncasedRanges.all run.avoids) = true := by
  decide +kernel

/-- All forms in the table are code points. -/
theorem caseRuns_bounded :
    (caseRuns.all fun run => (run.target + (run.last - run.first)).blt 0x110000) = true := by
  decide +kernel

section runs

variable {run other : CaseRun} {n : Nat}

/-- A run covers every code point between its ends, or every second one from its first. -/
theorem CaseRun.covers_iff :
    run.covers n = true ↔ run.first ≤ n ∧ n ≤ run.last ∧ (n - run.first) % run.step = 0 := by
  simp [covers, and_assoc]

/-- A form that a run gives is not covered by a run that it is clear of. -/
theorem CaseRun.clears.not_covers (h : run.clears other = true) (hn : run.covers n = true) :
    other.covers (n - run.first + run.target) = false := by
  rw [covers_iff] at hn
  rw [Bool.eq_false_iff, ne_eq, covers_iff]
  rintro ⟨hfirst, hlast, hstep⟩
  simp only [clears, Bool.or_eq_true, Bool.and_eq_true, Nat.blt_eq, beq_iff_eq] at h
  rcases h with (hbefore | hafter) | ⟨⟨hother, hboth | hsingle⟩, hodd⟩
  · omega
  · omega
  · rw [hboth] at hn
    rw [hother] at hstep
    omega
  · rw [hother] at hstep
    omega

/-- Neither a covered code point nor its form is in a range that the run avoids. -/
theorem CaseRun.avoids.outside {range : Nat × Nat} (h : run.avoids range = true)
    (hn : run.covers n = true) : ¬(range.1 ≤ n ∧ n ≤ range.2) ∧
      ¬(range.1 ≤ n - run.first + run.target ∧ n - run.first + run.target ≤ range.2) := by
  rw [covers_iff] at hn
  simp only [avoids, Bool.and_eq_true, Bool.or_eq_true, Nat.blt_eq] at h
  omega

/-- Neither a code point that the table covers nor its form is in a range without case. -/
theorem outside_of_covers (hrun : run ∈ caseRuns) (hn : run.covers n = true) {range : Nat × Nat}
    (hrange : range ∈ uncasedRanges) : ¬(range.1 ≤ n ∧ n ≤ range.2) ∧
      ¬(range.1 ≤ n - run.first + run.target ∧ n - run.first + run.target ≤ range.2) :=
  CaseRun.avoids.outside
    (List.all_eq_true.mp (List.all_eq_true.mp caseRuns_avoid run hrun) range hrange) hn

end runs

/-- The blanks are the characters of the listed ranges. -/
theorem isBlank_iff {c : Char} :
    isBlank c = true ↔ ∃ range ∈ blankRanges, range.1 ≤ c.toNat ∧ c.toNat ≤ range.2 := by
  simp only [isBlank, blankRanges, List.exists_mem_cons_iff, Bool.or_eq_true, Bool.and_eq_true,
    decide_eq_true_eq, List.not_mem_nil, false_and, exists_false, or_false]
  omega

/-- A character outside all ranges without case is no blank. -/
theorem isBlank_of_outside {c : Char}
    (h : ∀ range ∈ uncasedRanges, ¬(range.1 ≤ c.toNat ∧ c.toNat ≤ range.2)) :
    isBlank c = false := by
  rw [Bool.eq_false_iff, ne_eq, isBlank_iff]
  rintro ⟨range, hrange, hin⟩
  exact h range (List.mem_append_right [_, _] hrange) hin

/-! ### Lower-case forms -/

/-- The character has no lower-case form other than itself. -/
structure Settled (c : Char) : Prop where
  ne_dotted : c ≠ 'İ'
  not_covered : ∀ run ∈ caseRuns, run.covers c.toNat = false

/-- The characters are a lower-case form of the character: there is one, they stay as they are, and
they are blank only if it is. -/
structure IsForm (c : Char) (form : List Char) : Prop where
  ne_nil : form ≠ []
  settled : ∀ d ∈ form, Settled d
  isBlank : ∀ d ∈ form, isBlank d = isBlank c

variable {c : Char} {before cs : List Char}

/-- A character is settled when it is not the dotted capital I and no run of the table covers it. -/
theorem settled_iff : Settled c ↔ c ≠ 'İ' ∧ (caseRuns.any (·.covers c.toNat)) = false := by
  rw [List.any_eq_false]
  simp only [Bool.not_eq_true]
  exact ⟨fun h => ⟨h.ne_dotted, h.not_covered⟩, fun h => ⟨h.1, h.2⟩⟩

/-- The forms that are not in the table: those of the capital I with dot above and of sigma. -/
theorem settled_special : Settled 'i' ∧ Settled '\u0307' ∧ Settled 'ς' ∧ Settled 'σ' := by
  simp only [settled_iff]
  decide +kernel

/-- A settled character is its own lower-case form. -/
theorem Settled.ofChar_eq (h : Settled c) : ofChar c = [c] := by
  have hnone : caseRuns.find? (·.covers c.toNat) = none := by
    rw [List.find?_eq_none]
    intro run hrun
    simp [h.not_covered run hrun]
  rw [ofChar, if_neg h.ne_dotted, hnone]

/-- Capital sigma is not settled. -/
theorem Settled.ne_sigma (h : Settled c) : c ≠ 'Σ' := by
  rintro rfl
  have hcovered : (caseRuns.any (·.covers 'Σ'.toNat)) = true := by decide +kernel
  rw [(settled_iff.mp h).2] at hcovered
  cases hcovered

/-- The form that a run gives. -/
theorem isForm_of_covers {run : CaseRun} (hrun : run ∈ caseRuns) (hc : run.covers c.toNat = true) :
    IsForm c [Char.ofNat (c.toNat - run.first + run.target)] := by
  have houtside : ∀ range ∈ uncasedRanges, _ := fun _ hrange => outside_of_covers hrun hc hrange
  have hvalid : (c.toNat - run.first + run.target).isValidChar := by
    have hsurrogate := (houtside (0xD800, 0xDFFF) (by decide)).2
    have hbounded := List.all_eq_true.mp caseRuns_bounded run hrun
    rw [Nat.blt_eq] at hbounded
    rw [CaseRun.covers_iff] at hc
    simp only [Nat.isValidChar]
    omega
  have hcode : (Char.ofNat (c.toNat - run.first + run.target)).toNat =
      c.toNat - run.first + run.target := by
    rw [Char.toNat_ofNat, if_pos hvalid]
  refine ⟨List.cons_ne_nil _ _, List.forall_mem_singleton.mpr ⟨?_, ?_⟩,
    List.forall_mem_singleton.mpr ?_⟩
  · intro hdotted
    have hin := (houtside (0x130, 0x130) (by decide)).2
    rw [← hcode, hdotted] at hin
    exact hin (by decide)
  · intro other hother
    rw [hcode]
    exact (List.all_eq_true.mp (List.all_eq_true.mp caseRuns_clear run hrun) other hother
      |> CaseRun.clears.not_covers) hc
  · rw [isBlank_of_outside fun range hrange => (houtside range hrange).1]
    apply isBlank_of_outside
    rw [hcode]
    exact fun range hrange => (houtside range hrange).2

/-- What the mapping gives for a character is a lower-case form of it. -/
theorem isForm_ofChar (c : Char) : IsForm c (ofChar c) := by
  unfold ofChar
  split
  · rename_i hdotted
    rw [hdotted]
    obtain ⟨hletter, hdot, -⟩ := settled_special
    refine ⟨List.cons_ne_nil _ _, ?_, by simp [Text.isBlank]⟩
    exact List.forall_mem_cons.mpr ⟨hletter, List.forall_mem_singleton.mpr hdot⟩
  · rename_i hdotted
    split
    · rename_i run hfind
      have hcovers := List.find?_some hfind
      exact isForm_of_covers (List.mem_of_find?_eq_some hfind) hcovers
    · rename_i hnone
      refine ⟨List.cons_ne_nil _ _, List.forall_mem_singleton.mpr ⟨hdotted, ?_⟩, by simp⟩
      intro run hrun
      simpa using List.find?_eq_none.mp hnone run hrun

/-- A text in lower case is put together from lower-case forms of its characters. -/
theorem following_forms (before cs : List Char) :
    ∃ forms, List.Forall₂ IsForm cs forms ∧ following before cs = forms.flatten := by
  induction cs generalizing before with
  | nil => exact ⟨[], .nil, rfl⟩
  | cons c rest ih =>
    obtain ⟨forms, hforms, hrest⟩ := ih (c :: before)
    unfold following
    rw [hrest]
    refine ⟨_ :: forms, .cons ?_ hforms, rfl⟩
    split
    · rename_i hsigma
      rw [hsigma]
      obtain ⟨-, -, hfinal, hmedial⟩ := settled_special
      split
      · exact ⟨List.cons_ne_nil _ _, List.forall_mem_singleton.mpr hfinal, by simp [Text.isBlank]⟩
      · exact ⟨List.cons_ne_nil _ _, List.forall_mem_singleton.mpr hmedial, by simp [Text.isBlank]⟩
    · exact isForm_ofChar c

/-- Characters without other lower-case forms stay as they are. -/
theorem following_of_settled (h : ∀ c ∈ cs, Settled c) (before : List Char) :
    following before cs = cs := by
  induction cs generalizing before with
  | nil => rfl
  | cons c rest ih =>
    obtain ⟨hc, hrest⟩ := List.forall_mem_cons.mp h
    unfold following
    rw [if_neg hc.ne_sigma, hc.ofChar_eq, ih hrest]
    rfl

end Lowercase

/-! ### Lower case, blanks and trimming -/

open Lowercase

variable {cs : List Char}

/-- A text and its lower case, taken apart into the same number of pieces: one character of the text
and its form. -/
theorem lowercaseChars_forms (cs : List Char) :
    ∃ forms, List.Forall₂ IsForm cs forms ∧ lowercaseChars cs = forms.flatten :=
  following_forms [] cs

/-- Every character of a text in lower case is from the form of a character of the text. -/
theorem exists_of_mem_lowercaseChars {d : Char} (hd : d ∈ lowercaseChars cs) :
    ∃ c ∈ cs, ∃ form, IsForm c form ∧ d ∈ form := by
  obtain ⟨forms, hforms, hlower⟩ := lowercaseChars_forms cs
  rw [hlower] at hd
  clear hlower
  induction hforms with
  | nil => cases hd
  | @cons c form rest forms hform _ ih =>
    rw [List.flatten_cons, List.mem_append] at hd
    rcases hd with hd | hd
    · exact ⟨c, List.mem_cons_self, form, hform, hd⟩
    · obtain ⟨c', hc', hfrom⟩ := ih hd
      exact ⟨c', List.mem_cons_of_mem _ hc', hfrom⟩

/-- Lower-casing a second time changes nothing. -/
theorem lowercase_lowercase (s : String) : lowercase (lowercase s) = lowercase s := by
  have hagain : lowercaseChars (lowercaseChars s.toList) = lowercaseChars s.toList := by
    apply following_of_settled
    intro d hd
    obtain ⟨c, -, form, hform, hd⟩ := exists_of_mem_lowercaseChars hd
    exact hform.settled d hd
  unfold lowercase
  rw [String.toList_ofList, hagain]

/-- Only the empty text has the empty text for its lower case. -/
theorem lowercase_eq_empty {s : String} : lowercase s = "" ↔ s = "" := by
  unfold lowercase
  rw [String.ofList_eq_empty_iff, ← String.toList_eq_nil_iff]
  generalize s.toList = cs
  obtain ⟨forms, hforms, hlower⟩ := lowercaseChars_forms cs
  rw [hlower]
  cases hforms with
  | nil => simp
  | cons hform _ => simp [hform.ne_nil]

/-- Forms begin with a blank only if the characters do. -/
theorem head_flatten_forms {forms : List (List Char)} (h : List.Forall₂ IsForm cs forms) {d : Char}
    (hd : d ∈ forms.flatten.head?) : ∃ c ∈ cs.head?, isBlank d = isBlank c := by
  cases h with
  | nil => cases hd
  | @cons c form rest forms hform _ =>
    rw [List.flatten_cons, List.head?_append_of_ne_nil _ hform.ne_nil] at hd
    exact ⟨c, rfl, hform.isBlank d (List.mem_of_mem_head? hd)⟩

/-- Forms end with a blank only if the characters do. -/
theorem last_flatten_forms {forms : List (List Char)} (h : List.Forall₂ IsForm cs forms) {d : Char}
    (hd : d ∈ forms.flatten.getLast?) : ∃ c ∈ cs.getLast?, isBlank d = isBlank c := by
  induction h with
  | nil => cases hd
  | @cons c form rest forms hform hforms ih =>
    rw [List.flatten_cons] at hd
    cases hforms with
    | nil =>
      rw [List.flatten_nil, List.append_nil] at hd
      exact ⟨c, rfl, hform.isBlank d (List.mem_of_mem_getLast? hd)⟩
    | @cons c' form' rest' forms' hform' _ =>
      have hne : (form' :: forms').flatten ≠ [] := by simp [hform'.ne_nil]
      rw [List.getLast?_append_of_ne_nil _ hne] at hd
      rw [List.getLast?_cons_cons]
      exact ih hd

/-- The lower case of a trimmed text is trimmed. -/
theorem trim_lowercase_trim (s : String) : trim (lowercase (trim s)) = lowercase (trim s) := by
  obtain ⟨-, -, -, -, -, hhead, hlast⟩ := trimChars_spec s.toList
  obtain ⟨forms, hforms, hlower⟩ := lowercaseChars_forms (trimChars s.toList)
  have htrimmed : trimChars ([] ++ lowercaseChars (trimChars s.toList) ++ []) =
      lowercaseChars (trimChars s.toList) := by
    apply trimChars_append (by simp) (by simp)
    · intro d hd
      rw [hlower] at hd
      obtain ⟨c, hc, hblank⟩ := head_flatten_forms hforms hd
      rw [hblank, hhead c hc]
    · intro d hd
      rw [hlower] at hd
      obtain ⟨c, hc, hblank⟩ := last_flatten_forms hforms hd
      rw [hblank, hlast c hc]
  rw [List.nil_append, List.append_nil] at htrimmed
  unfold lowercase trim
  simp only [String.toList_ofList]
  rw [htrimmed]

/-- The lower case of a blank text is blank. -/
theorem trim_lowercase_of_blank {s : String} (h : trim s = "") : trim (lowercase s) = "" := by
  rw [trim_eq_empty] at h ⊢
  unfold lowercase
  rw [String.toList_ofList]
  intro d hd
  obtain ⟨c, hc, form, hform, hd⟩ := exists_of_mem_lowercaseChars hd
  rw [hform.isBlank d hd, h c hc]

end TenantAccess.Text
