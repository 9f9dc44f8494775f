import TenantAccess.Text.Ascii
import TenantAccess.Text.Blank

/-!
# Universally unique identifiers

A `Uuid` is a number of 128 bits.  It is written as 32 lower-case hexadecimal digits in groups of
8, 4, 4, 4 and 12 joined by hyphens, and read from four forms of either case: the digits alone, the
groups with hyphens, the groups in braces, and the groups after `urn:uuid:`.  A text of another form
is diagnosed: `UuidError` names what is wrong with it and where.
-/

namespace TenantAccess

/-- A number of 128 bits that names one thing. -/
structure Uuid where
  bits : BitVec 128
deriving DecidableEq, Inhabited

namespace Uuid

/-- The identifier whose bits are all zero. -/
def nil : Uuid := ⟨0⟩

/-- The identifier with the given number. -/
def ofNat (n : Nat) : Uuid := ⟨BitVec.ofNat 128 n⟩

/-- The identifier as a number. -/
def toNat (u : Uuid) : Nat := u.bits.toNat

/-- Identifiers are ordered as numbers, which is also the order of their written forms. -/
instance : Ord Uuid := ⟨fun u v => compare u.toNat v.toNat⟩

instance : LE Uuid := ⟨fun u v => u.toNat ≤ v.toNat⟩

instance : LT Uuid := ⟨fun u v => u.toNat < v.toNat⟩

instance (u v : Uuid) : Decidable (u ≤ v) := inferInstanceAs (Decidable (u.toNat ≤ v.toNat))

instance (u v : Uuid) : Decidable (u < v) := inferInstanceAs (Decidable (u.toNat < v.toNat))

/-- The version of an identifier: how it was made. -/
def version (u : Uuid) : Nat := u.toNat >>> 76 % 16

/-- The layout of the identifier is that of RFC 9562. -/
def hasStandardVariant (u : Uuid) : Bool := u.toNat >>> 62 % 4 = 2

/-- A new identifier of version 7: 48 bits of milliseconds since 1970, then 12 and 62 random bits. -/
def ofTime (milliseconds randomHigh randomLow : Nat) : Uuid :=
  ofNat ((milliseconds % 1 <<< 48) <<< 80 + 7 <<< 76 + (randomHigh % 1 <<< 12) <<< 64 + 1 <<< 63
    + randomLow % 1 <<< 62)

/-! ## Writing -/

/-- The lowest `count` hexadecimal digits of a number, highest first. -/
def hexDigits : Nat → Nat → List Char
  | 0, _ => []
  | count + 1, n => hexDigits count (n / 16) ++ [Text.hexDigit (n % 16)]

/-- The digits grouped 8-4-4-4-12 with hyphens between the groups. -/
def chars (u : Uuid) : List Char :=
  let n := u.toNat
  hexDigits 8 (n >>> 96) ++ '-' :: hexDigits 4 (n >>> 80) ++ '-' :: hexDigits 4 (n >>> 64)
    ++ '-' :: hexDigits 4 (n >>> 48) ++ '-' :: hexDigits 12 n

/-- The written form of an identifier. -/
def text (u : Uuid) : String := String.ofList u.chars

instance : ToString Uuid := ⟨text⟩

/-! ## Reading -/

/-- The number written by hexadecimal digits of either case, continuing from `acc`. -/
def hexNumber? (acc : Nat) : List Char → Option Nat
  | [] => some acc
  | c :: rest => do hexNumber? (acc * 16 + (← Text.hexValue? c)) rest

/-- The identifier written by 32 digits. -/
def ofDigits? (cs : List Char) : Option Uuid :=
  if cs.length = 32 then (hexNumber? 0 cs).map ofNat else none

/-- The characters without the hyphens that end the groups of the given lengths; the last group
takes what is left. -/
def joinGroups? : List Nat → List Char → Option (List Char)
  | [], cs => some cs
  | size :: sizes, cs =>
    match cs.drop size with
    | '-' :: rest => (joinGroups? sizes rest).map (cs.take size ++ ·)
    | _ => none

/-- The identifier written by the digits in groups of 8, 4, 4, 4 and 12. -/
def ofGroups? (cs : List Char) : Option Uuid :=
  (joinGroups? [8, 4, 4, 4] cs).bind ofDigits?

end Uuid

/-- What is wrong with a text that should be an identifier. Lengths and positions count octets. -/
inductive UuidError where
  /-- The text has a length no form has. -/
  | length (found : Nat)
  /-- A character that no identifier contains. -/
  | character (found : Char) (index : Nat)
  /-- The hyphens do not separate five groups. -/
  | groupCount (found : Nat)
  /-- A group has too many or too few digits. -/
  | groupLength (group expected found : Nat)
deriving DecidableEq, Repr

namespace UuidError

/-- The error as a message. -/
def message : UuidError → String
  | length found => "invalid length: found " ++ toString found
  | character found index =>
    "invalid character: found `" ++ String.singleton found ++ "` at " ++ toString index
  | groupCount found => "invalid group count: expected 5, found " ++ toString found
  | groupLength group expected found =>
    "invalid group length in group " ++ toString group ++ ": expected " ++ toString expected
      ++ ", found " ++ toString found

end UuidError

namespace Uuid

/-- What the length and the ends of a text say about its form. -/
inductive Form where
  | unknown
  | hyphenated
  | braced
  | urn
deriving DecidableEq

/-- What is known after passing over the digits and hyphens of a text. -/
structure Scan where
  form : Form
  /-- Number of hyphens. -/
  hyphens : Nat
  /-- Where the first four of them stand, first one first. -/
  positions : List Nat

/-- Pass over digits and hyphens, or stop at the first other character. `offset` octets precede the
scanned part and `index` octets of it have been passed. -/
def scan (offset : Nat) : Nat → Scan → List Char → Except UuidError Scan
  | _, seen, [] => .ok seen
  | index, seen, c :: rest =>
    if (Text.hexValue? c).isSome then scan offset (index + 1) seen rest
    else if c = '-' then
      scan offset (index + 1)
        { form := if seen.form = .unknown then .hyphenated else seen.form
          hyphens := seen.hyphens + 1
          positions := if seen.hyphens < 4 then seen.positions ++ [index] else seen.positions }
        rest
    else .error (.character c (offset + index))

/-- The start of each group of the hyphenated form, with the group's length. -/
def groups : List (Nat × Nat) := [(0, 8), (9, 4), (14, 4), (19, 4)]

/-- The first group whose closing hyphen stands in the wrong place. -/
def misplaced? : Nat → List (Nat × Nat) → List Nat → Option UuidError
  | group, (start, size) :: expected, position :: positions =>
    if position = start + size then misplaced? (group + 1) expected positions
    else some (.groupLength group size (position - start))
  | _, _, _ => none

/-- Why the characters are not an identifier, given what their length says about the form. -/
def diagnose (cs : List Char) (form : Form) : UuidError :=
  let size := Text.octets cs
  if size = 0 ∨ size > 45 then .length size
  else
    let (form, offset, part) :=
      if form = .unknown then
        if cs.head? = some '\x7b' ∧ cs.getLast? = some '\x7d' ∧ 2 ≤ size then
          (.braced, 1, (cs.drop 1).dropLast)
        else match Text.dropBeginning? "urn:uuid:".toList ((cs.take 9).map Char.toLower) with
          | some _ => (.urn, 9, cs.drop 9)
          | none => (form, 0, cs)
      else (form, 0, cs)
    match scan offset 0 ⟨form, 0, []⟩ part with
    | .error e => e
    | .ok seen =>
      if seen.form = .unknown then .length size
      else if seen.hyphens ≠ 4 then .groupCount (seen.hyphens + 1)
      else (misplaced? 0 groups seen.positions).getD (.groupLength 4 12 (size - 24))

/-- Read an identifier. The length in octets decides which form is meant. -/
def read (cs : List Char) : Except UuidError Uuid :=
  let orDiagnose (found : Option Uuid) (part : List Char) (form : Form) :=
    match found with
    | some u => .ok u
    | none => .error (diagnose part form)
  match Text.octets cs with
  | 32 => orDiagnose (ofDigits? cs) cs .unknown
  | 36 => orDiagnose (ofGroups? cs) cs .hyphenated
  | 38 =>
    if cs.head? = some '\x7b' ∧ cs.getLast? = some '\x7d' then
      let inner := (cs.drop 1).dropLast
      orDiagnose (ofGroups? inner) inner .hyphenated
    else .error (diagnose cs .unknown)
  | 45 =>
    if (cs.take 9).map Char.toLower = "urn:uuid:".toList then
      let inner := cs.drop 9
      orDiagnose (ofGroups? inner) inner .hyphenated
    else .error (diagnose cs .unknown)
  | _ => .error (diagnose cs .unknown)

/-- Read an identifier from a text exactly as it stands. -/
def parse (s : String) : Except UuidError Uuid := read s.toList

/-- The identifier a text holds, if it holds one. -/
def ofText? (s : String) : Option Uuid := (parse s).toOption

end Uuid
end TenantAccess
