import TenantAccess.Identifier
import TenantAccess.Proofs.Trimming

/-!
# Written identifiers

The written form of an identifier reads back, with or without blanks around it.  It is of
hexadecimal digits and hyphens only, so that it can stand between separators and quotes.

* `hexDigits_append`, `hexNumber?_hexDigits`: the digits of a number, cut anywhere, and what they
  read as.
* `Uuid.of_mem_chars`: what digits and hyphens have in common, the written form has throughout.
* `Uuid.parse_text`: the written form reads back.
* `Id.parse_text`, `Id.decode_toJson`: so do identifiers, as texts and in documents.
-/

namespace TenantAccess

namespace Uuid

/-! ### Hexadecimal digits -/

/-- As many digits are written as are asked for, with zeros in front. -/
@[simp] theorem length_hexDigits (count n : Nat) : (hexDigits count n).length = count := by
  induction count generalizing n with
  | zero => rfl
  | succ count ih => rw [hexDigits, List.length_append, ih, List.length_singleton]

/-- What is written of a number are hexadecimal digits. -/
theorem mem_hexDigits {count n : Nat} {c : Char} (h : c ∈ hexDigits count n) :
    ∃ digit : Fin 16, c = Text.hexDigit digit := by
  induction count generalizing n with
  | zero => cases h
  | succ count ih =>
    rcases List.mem_append.mp h with hbefore | hlast
    · exact ih hbefore
    · exact ⟨⟨n % 16, Nat.mod_lt n (by decide)⟩, List.mem_singleton.mp hlast⟩

/-- The digits before the last few are those of the number without these. -/
theorem hexDigits_append (before count n : Nat) :
    hexDigits (before + count) n = hexDigits before (n / 16 ^ count) ++ hexDigits count n := by
  induction count generalizing n with
  | zero => simp [hexDigits]
  | succ count ih =>
    rw [← Nat.add_assoc, hexDigits, ih, hexDigits, Nat.div_div_eq_div_mul, ← Nat.pow_succ',
      List.append_assoc]

/-- Digits are read one part after the other, the second one on from what the first one came to. -/
theorem hexNumber?_append (acc : Nat) (cs ds : List Char) :
    hexNumber? acc (cs ++ ds) = (hexNumber? acc cs).bind (hexNumber? · ds) := by
  induction cs generalizing acc with
  | nil => rfl
  | cons c cs ih =>
    rw [List.cons_append, hexNumber?, hexNumber?]
    cases Text.hexValue? c with
    | none => rfl
    | some value => exact ih _

/-- Digits read as the number that they are digits of, as far as they reach. -/
theorem hexNumber?_hexDigits (acc count n : Nat) :
    hexNumber? acc (hexDigits count n) = some (acc * 16 ^ count + n % 16 ^ count) := by
  induction count generalizing n with
  | zero => simp [hexDigits, hexNumber?, Nat.mod_one]
  | succ count ih =>
    have hdigit : Text.hexValue? (Text.hexDigit (n % 16)) = some (n % 16) :=
      Text.hexValue?_hexDigit ⟨n % 16, Nat.mod_lt n (by decide)⟩
    have hlast : (acc * 16 ^ count + n / 16 % 16 ^ count) * 16 + n % 16 =
        acc * 16 ^ (count + 1) + n % 16 ^ (count + 1) := by
      rw [Nat.pow_succ', Nat.mod_mul]
      ring
    rw [hexDigits, hexNumber?_append, ih, Option.bind_some, hexNumber?, hdigit, ← hlast]
    rfl

/-! ### The written form -/

/-- What holds of the hyphen and of all digits holds of every character of the written form. -/
theorem of_mem_chars {p : Char → Prop} (hhyphen : p '-')
    (hdigit : ∀ digit : Fin 16, p (Text.hexDigit digit)) (u : Uuid) : ∀ c ∈ u.chars, p c := by
  have hdigits : ∀ count n, ∀ c ∈ hexDigits count n, p c := by
    intro count n c hc
    obtain ⟨digit, rfl⟩ := mem_hexDigits hc
    exact hdigit digit
  intro c hc
  simp only [chars, List.cons_append, List.append_assoc, List.mem_append, List.mem_cons] at hc
  rcases hc with h | rfl | h | rfl | h | rfl | h | rfl | h
  all_goals first | exact hhyphen | exact hdigits _ _ c h

/-- The written form takes 36 octets. -/
theorem octets_chars (u : Uuid) : Text.octets u.chars = 36 := by
  rw [Text.octets_eq_length (u.of_mem_chars (p := fun c => c.utf8Size = 1) (by decide) (by decide))]
  simp [chars]

/-- A group is taken off with the hyphen behind it. -/
theorem joinGroups?_append {group : List Char} {size : Nat} (h : group.length = size)
    (sizes : List Nat) (rest : List Char) :
    joinGroups? (size :: sizes) (group ++ '-' :: rest) =
      (joinGroups? sizes rest).map (group ++ ·) := by
  subst h
  rw [joinGroups?, List.drop_left, List.take_left]
  rfl

/-- Without its hyphens the written form is of 32 digits in a row. -/
theorem joinGroups?_chars (u : Uuid) :
    joinGroups? [8, 4, 4, 4] u.chars = some (hexDigits 32 u.toNat) := by
  have hjoined : hexDigits 8 (u.toNat >>> 96) ++ (hexDigits 4 (u.toNat >>> 80) ++
      (hexDigits 4 (u.toNat >>> 64) ++ (hexDigits 4 (u.toNat >>> 48) ++ hexDigits 12 u.toNat))) =
      hexDigits 32 u.toNat := by
    simp only [Nat.shiftRight_eq_div_pow]
    have hlast := hexDigits_append 4 12 u.toNat
    have hthird := hexDigits_append 4 16 u.toNat
    have hsecond := hexDigits_append 4 20 u.toNat
    have hfirst := hexDigits_append 8 24 u.toNat
    norm_num at hlast hthird hsecond hfirst ⊢
    rw [← hlast, ← hthird, ← hsecond, ← hfirst]
  simp only [chars, List.cons_append, List.append_assoc]
  rw [joinGroups?_append (length_hexDigits _ _), joinGroups?_append (length_hexDigits _ _),
    joinGroups?_append (length_hexDigits _ _), joinGroups?_append (length_hexDigits _ _),
    joinGroups?]
  simp only [Option.map_some, hjoined]

/-- All digits of an identifier read as it. -/
theorem ofDigits?_hexDigits (u : Uuid) : ofDigits? (hexDigits 32 u.toNat) = some u := by
  have hsmall : u.toNat % 16 ^ 32 = u.toNat := Nat.mod_eq_of_lt u.bits.isLt
  have hback : ofNat u.toNat = u := by
    rw [ofNat, toNat, BitVec.ofNat_toNat, BitVec.setWidth_eq]
  rw [ofDigits?, if_pos (length_hexDigits _ _), hexNumber?_hexDigits, hsmall, Nat.zero_mul,
    Nat.zero_add, Option.map_some, hback]

/-- The characters of the written form are read as the identifier. -/
theorem read_chars (u : Uuid) : read u.chars = .ok u := by
  have hgroups : ofGroups? u.chars = some u := by
    rw [ofGroups?, joinGroups?_chars, Option.bind_some, ofDigits?_hexDigits]
  unfold read
  rw [octets_chars, hgroups]
  rfl

/-- An identifier reads back from its written form. -/
theorem parse_text (u : Uuid) : parse u.text = .ok u := by
  rw [parse, text, String.toList_ofList, read_chars]

/-- There are no blanks in the written form. -/
theorem trim_text (u : Uuid) : Text.trim u.text = u.text := by
  have hblank : ∀ c ∈ u.chars, Text.isBlank c = false := u.of_mem_chars (by decide) (by decide)
  have htrim : Text.trimChars ([] ++ u.chars ++ []) = u.chars := by
    apply Text.trimChars_append (by simp) (by simp)
    · exact fun c hc => hblank c (List.mem_of_mem_head? hc)
    · exact fun c hc => hblank c (List.mem_of_mem_getLast? hc)
  rw [List.nil_append, List.append_nil] at htrim
  rw [Text.trim, text, String.toList_ofList, htrim]

end Uuid

namespace Id

variable {kind : IdKind}

/-- An identifier of any kind reads back from its written form. -/
theorem parse_text (id : Id kind) : parse id.text = .ok id := by
  rw [parse, text, Uuid.trim_text, Uuid.parse_text]

/-- In a document an identifier is its written form, which reads back. -/
theorem decode_toJson (id : Id kind) : decode id.toJson = pure id := by
  have hread : Uuid.ofText? id.text = some id.uuid := by
    rw [Uuid.ofText?, text, Uuid.parse_text]
    rfl
  simp only [decode, toJson, Decoder.text, pure_bind, hread, Decoder.ofOption]

/-- The written form has no comma, and is not empty. -/
theorem comma_not_mem_text (id : Id kind) : ',' ∉ id.text.toList := by
  have hcomma : ∀ c ∈ id.uuid.chars, c ≠ ',' := id.uuid.of_mem_chars (by decide) (by decide)
  rw [text, Uuid.text, String.toList_ofList]
  exact fun h => hcomma _ h rfl

/-- The written form has 36 characters. -/
theorem length_text (id : Id kind) : id.text.toList.length = 36 := by
  rw [text, Uuid.text, String.toList_ofList]
  simp [Uuid.chars]

end Id
end TenantAccess
