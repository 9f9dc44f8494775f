import Mathlib.Data.List.Basic
import Mathlib.Data.Nat.Digits.Defs
import TenantAccess.Json.Reader
import TenantAccess.Json.Writer

/-!
# Reading what is written

A document that has a written form is read back from it.  Nothing is put between the tokens of the
written form, and each token tells where it ends: a text at its quote, an array and an object at its
bracket, and a number at the first character that does not continue one.

* `Json.EscapedAs`: the three ways in which a character of a text is written.
* `Json.readQuoted_escaped`, `Json.quotedText_escaped`: texts read back.
* `Json.readNumber_int`: so do integers.
* `Json.readItems_itemTexts`, `Json.readFields_fieldTexts`: so do the members of arrays and objects
  that do.
* `Json.Plain.parse?_text`: a plain document is read from its written form.
-/

namespace TenantAccess.Json

/-! ### Texts -/

/-- How a character is written in a text: as it is, by a letter behind a backslash, or by its
number. -/
inductive EscapedAs (c : Char) : List Char → Prop where
  | itself (hspace : ¬c.toNat < 0x20) (hquote : c ≠ '"') (hbackslash : c ≠ '\\') : EscapedAs c [c]
  | letter {letter : Char} (hletter : letter ≠ 'u') (h : simpleEscape? letter = some c) :
    EscapedAs c ['\\', letter]
  | number {high low : Char} (h : hex4? '0' '0' high low = some c.toNat) (hsmall : c.toNat < 0x20) :
    EscapedAs c ['\\', 'u', '0', '0', high, low]

/-- A character is written in one of the three ways. -/
theorem escapedAs_escaped (c : Char) : EscapedAs c (escaped c) := by
  unfold escaped
  split_ifs with hquote hbackslash hn hr ht hb hf hsmall
  · exact .letter (by decide) (congrArg some hquote.symm)
  · exact .letter (by decide) (congrArg some hbackslash.symm)
  · exact .letter (by decide) (congrArg some hn.symm)
  · exact .letter (by decide) (congrArg some hr.symm)
  · exact .letter (by decide) (congrArg some ht.symm)
  · exact .letter (by decide) (congrArg some hb.symm)
  · exact .letter (by decide) (congrArg some hf.symm)
  · have hhigh : Text.hexValue? (Text.hexDigit (c.toNat / 16)) = some (c.toNat / 16) :=
      Text.hexValue?_hexDigit ⟨c.toNat / 16, by omega⟩
    have hlow : Text.hexValue? (Text.hexDigit (c.toNat % 16)) = some (c.toNat % 16) :=
      Text.hexValue?_hexDigit ⟨c.toNat % 16, Nat.mod_lt _ (by decide)⟩
    have hzero : Text.hexValue? '0' = some 0 := rfl
    have hjoined : ((0 * 16 + 0) * 16 + c.toNat / 16) * 16 + c.toNat % 16 = c.toNat := by omega
    refine .number ?_ hsmall
    simp only [hex4?, hzero, hhigh, hlow, Option.bind_eq_bind, Option.bind_some, hjoined]
  · exact .itself hsmall hquote hbackslash

/-- Looking for the end of a text, a character is passed over as it is written. -/
theorem readQuoted_append {c : Char} {written : List Char} (h : EscapedAs c written)
    (read tail : List Char) :
    readQuoted read (written ++ tail) = readQuoted (written.reverse ++ read) tail := by
  cases h with
  | itself hspace hquote hbackslash => simp [readQuoted, hspace, hbackslash]
  | letter hletter h => simp [readQuoted, hletter, h]
  | number h hsmall => simp [readQuoted, h]

/-- A written text is read up to the quote behind it. -/
theorem readQuoted_escaped (cs read rest : List Char) :
    readQuoted read (cs.flatMap escaped ++ '"' :: rest) =
      some (read.reverse ++ cs.flatMap escaped, rest) := by
  induction cs generalizing read with
  | nil => simp [readQuoted]
  | cons c cs ih =>
    rw [List.flatMap_cons, List.append_assoc, readQuoted_append (escapedAs_escaped c), ih,
      List.reverse_append, List.reverse_reverse, List.append_assoc]

/-- A character is understood from how it is written. -/
theorem unescape_append {c : Char} {written : List Char} (h : EscapedAs c written)
    (read tail : List Char) : unescape read (written ++ tail) = unescape (c :: read) tail := by
  cases h with
  | itself hspace hquote hbackslash => simp [unescape, hbackslash]
  | letter hletter h => simp [unescape, hletter, h]
  | number h hsmall =>
    have hlow : isLowSurrogate c.toNat = false := by
      simp only [isLowSurrogate, Bool.and_eq_false_imp, decide_eq_true_eq, decide_eq_false_iff_not]
      omega
    have hhigh : isHighSurrogate c.toNat = false := by
      simp only [isHighSurrogate, Bool.and_eq_false_imp, decide_eq_true_eq, decide_eq_false_iff_not]
      omega
    simp only [List.cons_append, List.nil_append]
    conv_lhs => unfold unescape
    simp [h, hlow, hhigh, Char.ofNat_toNat]

/-- A written text is understood as the text it was. -/
theorem unescape_escaped (cs read : List Char) :
    unescape read (cs.flatMap escaped) = .ok (read.reverse ++ cs) := by
  induction cs generalizing read with
  | nil => simp [unescape]
  | cons c cs ih =>
    rw [List.flatMap_cons, unescape_append (escapedAs_escaped c), ih, List.reverse_cons,
      List.append_assoc, List.singleton_append]

/-- So what stands between the quotes is the text. -/
theorem quotedText_escaped (s : String) :
    quotedText .characters (s.toList.flatMap escaped) = .ok s := by
  simp [quotedText, Encoding.decode, unescape_escaped, Except.map]

/-- A text is written between quotes, one character after the other. -/
theorem toList_quoted (s : String) :
    (quoted s).toList = '"' :: (s.toList.flatMap escaped ++ ['"']) := by
  simp [quoted]

/-! ### Numbers -/

/-- What follows does not continue a number. -/
def EndsNumber (rest : List Char) : Prop :=
  ∀ c ∈ rest.head?, c.isDigit = false ∧ c ≠ '.' ∧ c ≠ 'e' ∧ c ≠ 'E'

/-- Digits are read up to their end. -/
theorem digits?_append {digits rest : List Char} (hdigits : ∀ c ∈ digits, c.isDigit = true)
    (hne : digits ≠ []) (hrest : EndsNumber rest) :
    digits? (digits ++ rest) = some (digits, rest) := by
  have htake : (digits ++ rest).takeWhile Char.isDigit = digits := by
    rw [List.takeWhile_append_of_pos hdigits]
    rcases rest with _ | ⟨c, rest⟩
    · simp
    · simp [(hrest c rfl).1]
  have hempty : digits.isEmpty = false := by simpa using hne
  simp [digits?, htake, hempty]

/-- The digits of a number begin with a zero only if it is zero. -/
theorem toDigits_head {m : Nat} (hm : m ≠ 0) : ∃ c cs, Nat.toDigits 10 m = c :: cs ∧ c ≠ '0' := by
  induction m using Nat.strongRecOn with
  | ind m ih =>
    rcases Nat.lt_or_ge m 10 with hsmall | hlarge
    · have hdigit : ∀ d : Fin 10, d.val ≠ 0 → d.val.digitChar ≠ '0' := by decide
      exact ⟨_, [], Nat.toDigits_of_lt_base hsmall, hdigit ⟨m, hsmall⟩ hm⟩
    · obtain ⟨c, cs, hdigits, hc⟩ := ih (m / 10) (by omega) (by omega)
      refine ⟨c, cs ++ [(m % 10).digitChar], ?_, hc⟩
      rw [Nat.toDigits_of_base_le (by decide) hlarge, hdigits, List.cons_append]

/-- The decimal digits of a number have it for their value. -/
theorem decimalValue_toDigits (m : Nat) : Text.decimalValue (Nat.toDigits 10 m) = m := by
  have hvalue : Nat.ofDigitChars 10 (Nat.toDigits 10 m) 0 = m := Nat.ofDigitChars_ten_toDigits
  rw [Nat.ofDigitChars_eq_foldl] at hvalue
  simpa only [Text.decimalValue, Text.digitValue, Nat.mul_comm] using hvalue

/-- Digits are read as the number they write, and with a minus sign before them as its negative. -/
theorem readNumber_toDigits {m : Nat} (hm : m ≠ 0) {rest : List Char} (hrest : EndsNumber rest) :
    readNumber (Nat.toDigits 10 m ++ rest) = some (.integer m, rest) ∧
    readNumber ('-' :: (Nat.toDigits 10 m ++ rest)) = some (.integer (-m), rest) := by
  have hdigits : ∀ c ∈ Nat.toDigits 10 m, c.isDigit = true :=
    fun c hc => Nat.isDigit_of_mem_toDigits (by decide) (by decide) hc
  have hread := digits?_append hdigits Nat.toDigits_ne_nil hrest
  have hvalue := decimalValue_toDigits m
  obtain ⟨c, cs, hcs, hc⟩ := toDigits_head hm
  rw [hcs] at hvalue hdigits hread ⊢
  have hsign : c ≠ '-' := by
    rintro rfl
    exact absurd (hdigits '-' List.mem_cons_self) (by decide)
  rw [List.cons_append] at hread ⊢
  rcases rest with _ | ⟨d, rest⟩
  · rw [List.append_nil] at hread ⊢
    simp [readNumber, hsign, hc, hread, hvalue, hm]
  · obtain ⟨-, hpoint, he, hE⟩ := hrest d rfl
    simp [readNumber, hsign, hc, hread, hpoint, he, hE, hvalue, hm]

/-- A single zero is read as zero. -/
theorem readNumber_zero {rest : List Char} (hrest : EndsNumber rest) :
    readNumber ('0' :: rest) = some (.integer 0, rest) := by
  rcases rest with _ | ⟨d, rest⟩
  · rfl
  · obtain ⟨hd, hpoint, he, hE⟩ := hrest d rfl
    simp [readNumber, hd, hpoint, he, hE, Text.decimalValue, Text.digitValue]

/-- An integer is written by its digits, behind a minus sign if it is negative. -/
theorem toList_toString_int (n : Int) : (toString n).toList =
    if n < 0 then '-' :: Nat.toDigits 10 n.natAbs else Nat.toDigits 10 n.natAbs := by
  rcases n with m | m
  · have htext : toString (Int.ofNat m) = toString m := rfl
    rw [htext, Nat.toString_eq_ofList_toDigits, String.toList_ofList]
    simp
  · have htext : toString (Int.negSucc m) = "-" ++ toString (m + 1) := rfl
    rw [htext, String.toList_append, Nat.toString_eq_ofList_toDigits, String.toList_ofList]
    simp [Int.negSucc_lt_zero]

/-- An integer is read from its written form. -/
theorem readNumber_int (n : Int) {rest : List Char} (hrest : EndsNumber rest) :
    readNumber ((toString n).toList ++ rest) = some (.integer n, rest) := by
  rw [toList_toString_int]
  rcases Int.lt_trichotomy n 0 with hneg | rfl | hpos
  · have hread := (readNumber_toDigits (Int.natAbs_ne_zero.mpr hneg.ne) hrest).2
    rw [if_pos hneg, List.cons_append, hread]
    simp only [Option.some.injEq, Prod.mk.injEq, Number.integer.injEq, and_true]
    omega
  · exact readNumber_zero hrest
  · have hread := (readNumber_toDigits (Int.natAbs_ne_zero.mpr hpos.ne') hrest).1
    rw [if_neg (by omega), hread]
    simp only [Option.some.injEq, Prod.mk.injEq, Number.integer.injEq, and_true]
    omega

/-- A number begins with a character with which nothing else begins. -/
theorem int_head (n : Int) : ∃ c cs, (toString n).toList = c :: cs ∧ isSpace c = false ∧
    c ∉ ['n', 't', 'f', '"', '[', ']', '\x7b'] := by
  rw [toList_toString_int]
  split_ifs
  · exact ⟨'-', _, rfl, by decide, by decide⟩
  · obtain ⟨c, cs, hcs⟩ :=
      List.exists_cons_of_ne_nil (Nat.toDigits_ne_nil (n := n.natAbs) (b := 10))
    have hc : c.isDigit = true :=
      Nat.isDigit_of_mem_toDigits (by decide) (by decide) (hcs ▸ List.mem_cons_self)
    have hother : ∀ d ∈ ['n', 't', 'f', '"', '[', ']', '\x7b'], d.isDigit = false := by simp
    refine ⟨c, cs, hcs, ?_, fun hmem => ?_⟩
    · by_contra hspace
      simp only [isSpace, Bool.or_eq_true, decide_eq_true_eq, Bool.not_eq_false] at hspace
      rcases hspace with ((rfl | rfl) | rfl) | rfl <;> cases hc
    · rw [hother c hmem] at hc
      cases hc

/-! ### Documents -/

/-- A document of which every part can be written: numbers are integers, and nothing is
unreadable. -/
inductive Plain : Json → Prop where
  | null : Plain .null
  | bool (value : Bool) : Plain (.bool value)
  | int (n : Int) : Plain (.number (.integer n))
  | string (s : String) : Plain (.string s)
  | array {items : List Json} (h : ∀ item ∈ items, Plain item) : Plain (.array items)
  | object {fields : List (String × Json)} (h : ∀ field ∈ fields, Plain field.2) :
    Plain (.object fields)

/-- The document is read from its written form, whatever follows that does not continue a number. -/
def Reads (document : Json) : Prop :=
  ∀ fuel rest, document.text.toList.length ≤ fuel → EndsNumber rest →
    readValue .characters fuel (document.text.toList ++ rest) = some (document, rest)

/-- Nothing is skipped before a character that is no blank. -/
theorem skipSpace_cons {c : Char} (h : isSpace c = false) (cs : List Char) :
    skipSpace (c :: cs) = c :: cs := by
  simp [skipSpace, h]

/-- An integer is read from its written form, whatever follows that does not continue it. -/
theorem reads_int (n : Int) : Reads (.number (.integer n)) := by
  intro fuel rest hfuel hrest
  obtain ⟨c, cs, hcs, hspace, hhead⟩ := int_head n
  have hnumber := readNumber_int n hrest
  rw [text, Number.text, hcs] at hfuel ⊢
  rw [hcs, List.cons_append] at hnumber
  obtain ⟨fuel, rfl⟩ := Nat.exists_eq_succ_of_ne_zero (Nat.ne_zero_of_lt hfuel)
  rw [readValue, List.cons_append, skipSpace_cons hspace]
  split
  case h_7 => rw [hnumber, Option.map_some]
  all_goals
    rename_i hcontra
    obtain rfl := (List.cons.inj hcontra).1
    exact absurd hhead (by decide)

/-- A text is read from its written form, whatever follows. -/
theorem reads_string (s : String) : Reads (.string s) := by
  intro fuel rest hfuel _
  rw [text, toList_quoted] at hfuel ⊢
  obtain ⟨fuel, rfl⟩ := Nat.exists_eq_succ_of_ne_zero (Nat.ne_zero_of_lt hfuel)
  rw [readValue, List.cons_append, skipSpace_cons (by decide), List.append_assoc,
    List.singleton_append]
  simp only [readQuoted_escaped, List.reverse_nil, List.nil_append, Option.map_some, ofQuoted,
    quotedText_escaped]

/-- The members of an array or object, with commas between them. -/
theorem toList_intercalate_cons (first : String) {others : List String} (h : others ≠ []) :
    (",".intercalate (first :: others)).toList =
      first.toList ++ ',' :: (",".intercalate others).toList := by
  obtain ⟨second, others, rfl⟩ := List.exists_cons_of_ne_nil h
  simp [String.toList_intercalate]

/-- An array is written between brackets, its items with commas between them. -/
theorem toList_text_array (items : List Json) : (text (.array items)).toList =
    '[' :: ((",".intercalate (itemTexts items)).toList ++ [']']) := by
  simp only [text, String.toList_append]
  rfl

/-- An object is written between braces, its fields with commas between them. -/
theorem toList_text_object (fields : List (String × Json)) :
    (text (.object fields)).toList =
      '\x7b' :: ((",".intercalate (fieldTexts fields)).toList ++ ['\x7d']) := by
  simp only [text, String.toList_append]
  rfl

/-- A field is written as its name between quotes, a colon and its value. -/
theorem toList_field (name : String) (value : Json) : (quoted name ++ ":" ++ text value).toList =
    '"' :: (name.toList.flatMap escaped ++ '"' :: ':' :: (text value).toList) := by
  simp [quoted]

/-- A written form does not begin with a blank or the end of an array. -/
theorem Plain.text_head {document : Json} (h : document.Plain) :
    ∃ c cs, document.text.toList = c :: cs ∧ isSpace c = false ∧ c ≠ ']' := by
  cases h with
  | null => exact ⟨'n', _, rfl, by decide, by decide⟩
  | bool value => cases value <;> exact ⟨_, _, rfl, by decide, by decide⟩
  | int n =>
    obtain ⟨c, cs, hcs, hspace, hhead⟩ := int_head n
    refine ⟨c, cs, ?_, hspace, fun hc => hhead (by simp [hc])⟩
    rw [text, Number.text, hcs]
  | string s => exact ⟨'"', _, toList_quoted s, by decide, by decide⟩
  | array h => exact ⟨'[', _, toList_text_array _, by decide, by decide⟩
  | object h => exact ⟨'\x7b', _, toList_text_object _, by decide, by decide⟩

/-- A member of an array or object is followed by a comma or a bracket, which continues no
number. -/
theorem endsNumber_cons {c : Char} (h : c ∈ [',', ']', '\x7d']) (cs : List Char) :
    EndsNumber (c :: cs) := by
  have hends : ∀ d ∈ [',', ']', '\x7d'],
      d.isDigit = false ∧ d ≠ '.' ∧ d ≠ 'e' ∧ d ≠ 'E' := by simp
  simpa [EndsNumber] using hends c h

/-- The items of an array are read up to its bracket, if each of them can be read. -/
theorem readItems_itemTexts {items : List Json} (hne : items ≠ [])
    (hitems : ∀ item ∈ items, Reads item) (before : List Json) {fuel : Nat} (rest : List Char)
    (hfuel : (",".intercalate (itemTexts items)).toList.length < fuel) :
    readItems .characters fuel before ((",".intercalate (itemTexts items)).toList ++ ']' :: rest) =
      some (before.reverse ++ items, rest) := by
  induction items generalizing before fuel with
  | nil => exact absurd rfl hne
  | cons item items ih =>
    obtain ⟨fuel, rfl⟩ := Nat.exists_eq_succ_of_ne_zero (Nat.ne_zero_of_lt hfuel)
    obtain ⟨hitem, hitems⟩ := List.forall_mem_cons.mp hitems
    rw [itemTexts] at hfuel ⊢
    rcases items with _ | ⟨second, items⟩
    · have hjoined : (",".intercalate (text item :: itemTexts [])).toList = (text item).toList := by
        simp [itemTexts]
      rw [hjoined] at hfuel ⊢
      rw [readItems, hitem fuel _ (by omega) (endsNumber_cons (by decide) _)]
      simp only [skipSpace_cons (c := ']') (by decide), List.reverse_cons]
    · have hne : itemTexts (second :: items) ≠ [] := by simp [itemTexts]
      rw [toList_intercalate_cons _ hne] at hfuel ⊢
      rw [List.length_append, List.length_cons] at hfuel
      rw [List.append_assoc, List.cons_append, readItems,
        hitem fuel _ (by omega) (endsNumber_cons (by decide) _)]
      simp only [skipSpace_cons (c := ',') (by decide)]
      rw [ih (List.cons_ne_nil _ _) hitems (item :: before) (by omega), List.reverse_cons,
        List.append_assoc, List.singleton_append]

/-- One field is read, and the sign behind it tells whether it was the last. -/
theorem readFields_field (name : String) {value : Json} (hvalue : Reads value)
    (before : List (Option String × Json)) {fuel : Nat}
    (hfuel : (quoted name ++ ":" ++ text value).toList.length ≤ fuel) (rest : List Char) :
    readFields .characters (fuel + 1) before
        ((quoted name ++ ":" ++ text value).toList ++ ',' :: rest) =
      readFields .characters fuel ((some name, value) :: before) rest ∧
    readFields .characters (fuel + 1) before
        ((quoted name ++ ":" ++ text value).toList ++ '\x7d' :: rest) =
      some (before.reverse ++ [(some name, value)], rest) := by
  rw [toList_field] at hfuel ⊢
  simp only [List.length_cons, List.length_append] at hfuel
  simp only [List.cons_append, List.append_assoc]
  constructor
  · have hread := hvalue fuel (',' :: rest) (by omega) (endsNumber_cons (by decide) _)
    rw [readFields, skipSpace_cons (by decide)]
    simp only [readQuoted_escaped, skipSpace_cons (c := ':') (by decide), hread, quotedText_escaped,
      List.reverse_nil, List.nil_append, Except.toOption, skipSpace_cons (c := ',') (by decide)]
  · have hread := hvalue fuel ('\x7d' :: rest) (by omega) (endsNumber_cons (by decide) _)
    rw [readFields, skipSpace_cons (by decide)]
    simp only [readQuoted_escaped, skipSpace_cons (c := ':') (by decide), hread, quotedText_escaped,
      List.reverse_nil, List.nil_append, Except.toOption, skipSpace_cons (c := '\x7d') (by decide),
      List.reverse_cons]

/-- The fields of an object are read up to its brace, if each of their values can be read. -/
theorem readFields_fieldTexts {fields : List (String × Json)} (hne : fields ≠ [])
    (hfields : ∀ field ∈ fields, Reads field.2) (before : List (Option String × Json)) {fuel : Nat}
    (rest : List Char) (hfuel : (",".intercalate (fieldTexts fields)).toList.length < fuel) :
    readFields .characters fuel before
        ((",".intercalate (fieldTexts fields)).toList ++ '\x7d' :: rest) =
      some (before.reverse ++ fields.map fun field => (some field.1, field.2), rest) := by
  induction fields generalizing before fuel with
  | nil => exact absurd rfl hne
  | cons field fields ih =>
    obtain ⟨fuel, rfl⟩ := Nat.exists_eq_succ_of_ne_zero (Nat.ne_zero_of_lt hfuel)
    obtain ⟨name, value⟩ := field
    obtain ⟨hfield, hothers⟩ := List.forall_mem_cons.mp hfields
    rw [fieldTexts] at hfuel ⊢
    rcases fields with _ | ⟨second, fields⟩
    · have hjoined :
          (",".intercalate ((quoted name ++ ":" ++ text value) :: fieldTexts [])).toList =
            (quoted name ++ ":" ++ text value).toList := by
        simp [fieldTexts]
      rw [hjoined] at hfuel ⊢
      exact (readFields_field name hfield before (Nat.le_of_lt_succ hfuel) rest).2
    · have hne : fieldTexts (second :: fields) ≠ [] := by simp [fieldTexts]
      rw [toList_intercalate_cons _ hne] at hfuel ⊢
      rw [List.length_append, List.length_cons] at hfuel
      have hfirst : (quoted name ++ ":" ++ text value).toList.length ≤ fuel := by omega
      rw [List.append_assoc, List.cons_append, (readFields_field name hfield before hfirst _).1,
        ih (List.cons_ne_nil _ _) hothers _ (by omega), List.reverse_cons, List.append_assoc,
        List.singleton_append]
      rfl

/-- Fields that all have names make the object with these fields. -/
theorem ofFields_some (fields : List (String × Json)) :
    ofFields (fields.map fun field => (some field.1, field.2)) = .object fields := by
  have hkeys : fields.mapM some = some fields := by
    induction fields with
    | nil => rfl
    | cons field fields ih => rw [List.mapM_cons, ih]; rfl
  simp only [ofFields, List.mapM_map, Function.comp_def, Option.map_some, Prod.mk.eta, hkeys]

/-- Joined members begin as the first of them. -/
theorem intercalate_head {first : String} {c : Char} {cs : List Char} (h : first.toList = c :: cs)
    (others : List String) : ∃ tail, (",".intercalate (first :: others)).toList = c :: tail := by
  rcases List.eq_nil_or_concat others with rfl | ⟨_, _, rfl⟩
  · exact ⟨cs, by simp [h]⟩
  · rw [toList_intercalate_cons first (by simp), h]
    exact ⟨_, rfl⟩

/-- An array is read from its written form, if its items are. -/
theorem reads_array {items : List Json} (hhead : ∀ item ∈ items,
      ∃ c cs, item.text.toList = c :: cs ∧ isSpace c = false ∧ c ≠ ']')
    (hitems : ∀ item ∈ items, Reads item) : Reads (.array items) := by
  intro fuel rest hfuel _
  rw [toList_text_array] at hfuel ⊢
  obtain ⟨fuel, rfl⟩ := Nat.exists_eq_succ_of_ne_zero (Nat.ne_zero_of_lt hfuel)
  simp only [List.length_cons, List.length_append, List.length_nil] at hfuel
  rw [readValue, List.cons_append, skipSpace_cons (by decide), List.append_assoc,
    List.singleton_append]
  rcases items with _ | ⟨item, items⟩
  · rfl
  · obtain ⟨c, cs, hcs, hspace, hc⟩ := hhead item List.mem_cons_self
    obtain ⟨tail, htail⟩ := intercalate_head hcs (itemTexts items)
    have hread := readItems_itemTexts (List.cons_ne_nil _ _) hitems [] rest
      (show _ < fuel by omega)
    rw [itemTexts, htail, List.cons_append] at hread ⊢
    simp only [skipSpace_cons hspace]
    split
    · rename_i hend
      exact absurd (List.cons.inj hend).1 hc
    · simp only [hread, Option.map_some, List.reverse_nil, List.nil_append]

/-- An object is read from its written form, if its values are. -/
theorem reads_object {fields : List (String × Json)} (hfields : ∀ field ∈ fields, Reads field.2) :
    Reads (.object fields) := by
  intro fuel rest hfuel _
  rw [toList_text_object] at hfuel ⊢
  obtain ⟨fuel, rfl⟩ := Nat.exists_eq_succ_of_ne_zero (Nat.ne_zero_of_lt hfuel)
  simp only [List.length_cons, List.length_append, List.length_nil] at hfuel
  rw [readValue, List.cons_append, skipSpace_cons (by decide), List.append_assoc,
    List.singleton_append]
  rcases fields with _ | ⟨⟨name, value⟩, fields⟩
  · rfl
  · obtain ⟨tail, htail⟩ := intercalate_head (toList_field name value) (fieldTexts fields)
    have hread := readFields_fieldTexts (List.cons_ne_nil _ _) hfields [] rest
      (show _ < fuel by omega)
    rw [fieldTexts, htail, List.cons_append] at hread ⊢
    simp only [skipSpace_cons (c := '"') (by decide)]
    split
    · rename_i hend
      exact absurd hend (by simp)
    · simp only [hread, Option.map_some, List.reverse_nil, List.nil_append, ofFields_some]

/-- Every plain document is read from its written form. -/
theorem Plain.reads {document : Json} (h : document.Plain) : Reads document := by
  induction h with
  | null =>
    intro fuel rest hfuel _
    obtain ⟨fuel, rfl⟩ := Nat.exists_eq_succ_of_ne_zero (Nat.ne_zero_of_lt hfuel)
    rfl
  | bool value =>
    intro fuel rest hfuel _
    cases value
    all_goals
      obtain ⟨fuel, rfl⟩ := Nat.exists_eq_succ_of_ne_zero (Nat.ne_zero_of_lt hfuel)
      rfl
  | int n => exact reads_int n
  | string s => exact reads_string s
  | array hitems ih => exact reads_array (fun item hitem => (hitems item hitem).text_head) ih
  | object hfields ih => exact reads_object ih

/-- The document that is written is the one that is read. -/
theorem Plain.parse?_text {document : Json} (h : document.Plain) :
    parse? document.text = some document := by
  have hread := h.reads (2 * document.text.toList.length + 1) [] (by omega) (by simp [EndsNumber])
  rw [List.append_nil] at hread
  rw [parse?, parseChars?, readBeginning?, hread]
  rfl

end TenantAccess.Json
