/-!
# ASCII letters

Case conversion and comparison that touch the letters A to Z only; every other character,
accented letters included, stands for itself.
-/

namespace TenantAccess.Text

/-- The text with the ASCII letters a to z in upper case. -/
def asciiUpper (s : String) : String :=
  String.ofList (s.toList.map Char.toUpper)

/-- The text with the ASCII letters A to Z in lower case. -/
def asciiLower (s : String) : String :=
  String.ofList (s.toList.map Char.toLower)

/-- Two texts are the same up to the case of ASCII letters. -/
def equalIgnoringAsciiCase (s t : String) : Bool :=
  s.toList.map Char.toLower == t.toList.map Char.toLower

/-- The number of octets of the characters in UTF-8. -/
def octets : List Char → Nat
  | [] => 0
  | c :: rest => c.utf8Size + octets rest

/-- Characters of one octet each are as many octets. -/
theorem octets_eq_length {cs : List Char} (h : ∀ c ∈ cs, c.utf8Size = 1) :
    octets cs = cs.length := by
  induction cs with
  | nil => rfl
  | cons c cs ih =>
    obtain ⟨hc, hcs⟩ := List.forall_mem_cons.mp h
    rw [octets, hc, ih hcs, List.length_cons, Nat.add_comm]

/-- The value of a decimal digit. -/
def digitValue (c : Char) : Nat := c.toNat - '0'.toNat

/-- The number that decimal digits write. -/
def decimalValue (digits : List Char) : Nat :=
  digits.foldl (fun n c => n * 10 + digitValue c) 0

/-- The value of a hexadecimal digit of either case. -/
def hexValue? (c : Char) : Option Nat :=
  if '0' ≤ c ∧ c ≤ '9' then some (c.toNat - '0'.toNat)
  else if 'a' ≤ c ∧ c ≤ 'f' then some (c.toNat - 'a'.toNat + 10)
  else if 'A' ≤ c ∧ c ≤ 'F' then some (c.toNat - 'A'.toNat + 10)
  else none

/-- The hexadecimal digit, in lower case, of a number below sixteen. -/
def hexDigit (n : Nat) : Char :=
  if n < 10 then Char.ofNat ('0'.toNat + n) else Char.ofNat ('a'.toNat + (n - 10))

/-- A hexadecimal digit reads back. -/
theorem hexValue?_hexDigit : ∀ n : Fin 16, hexValue? (hexDigit n) = some n.val := by decide

/-- The pieces between the occurrences of a separator; one piece more than there are separators. -/
def splitChars (separator : Char) : List Char → List (List Char)
  | [] => [[]]
  | c :: rest =>
    if c = separator then [] :: splitChars separator rest
    else match splitChars separator rest with
      | [] => [[c]]
      | piece :: pieces => (c :: piece) :: pieces

/-- The pieces of a text between the occurrences of a separator. -/
def split (separator : Char) (s : String) : List String :=
  (splitChars separator s.toList).map String.ofList

/-- What follows a given beginning, or nothing when the text does not begin so. -/
def dropBeginning? : List Char → List Char → Option (List Char)
  | [], rest => some rest
  | _ :: _, [] => none
  | c :: cs, d :: ds => if c = d then dropBeginning? cs ds else none

/-- The characters occur in a row somewhere in the text. -/
def occursIn (part : List Char) : List Char → Bool
  | [] => part.isEmpty
  | c :: rest => (dropBeginning? part (c :: rest)).isSome || occursIn part rest

/-- A character of printable ASCII, or a tab. -/
def isVisibleAscii (c : Char) : Bool :=
  (0x20 ≤ c.toNat && c.toNat ≤ 0x7E) || c = '\t'

end TenantAccess.Text
