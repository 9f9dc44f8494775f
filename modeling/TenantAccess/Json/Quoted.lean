import TenantAccess.Json.Basic
import TenantAccess.Text.Ascii

/-!
# Between quotes

What stands between the quotes of a document.  Its end is found first: every backslash has to begin
an escape, and control characters are refused.  What it says is a second step, which fails on a lone
surrogate and on octets that are not UTF-8, so that a reader can pass over what it does not need to
understand.
-/

namespace TenantAccess.Json

/-- How the characters of a document are given. -/
inductive Encoding where
  /-- As they are. -/
  | characters
  /-- By their octets in UTF-8, each as the character of its number. -/
  | octets
deriving DecidableEq, Repr

/-- The characters that are given, if they are characters. -/
def Encoding.decode : Encoding → List Char → Option (List Char)
  | characters, cs => some cs
  | octets, cs =>
    (String.fromUTF8? ⟨(cs.map fun c => c.toNat.toUInt8).toArray⟩).map String.toList

/-- The number of four hexadecimal digits. -/
def hex4? (a b c d : Char) : Option Nat := do
  let a ← Text.hexValue? a
  let b ← Text.hexValue? b
  let c ← Text.hexValue? c
  let d ← Text.hexValue? d
  some (((a * 16 + b) * 16 + c) * 16 + d)

/-- The character that a letter after a backslash stands for. -/
def simpleEscape? : Char → Option Char
  | '"' => some '"'
  | '\\' => some '\\'
  | '/' => some '/'
  | 'b' => some '\x08'
  | 'f' => some '\x0c'
  | 'n' => some '\n'
  | 'r' => some '\r'
  | 't' => some '\t'
  | _ => none

/-- What stands before the closing quote, as written, and what follows the quote. `read` holds the
characters before, last one first. -/
def readQuoted (read : List Char) : List Char → Option (List Char × List Char)
  | '"' :: rest => some (read.reverse, rest)
  | '\\' :: 'u' :: a :: b :: c :: d :: rest =>
    match hex4? a b c d with
    | some _ => readQuoted (d :: c :: b :: a :: 'u' :: '\\' :: read) rest
    | none => none
  | '\\' :: c :: rest =>
    match simpleEscape? c with
    | some _ => readQuoted (c :: '\\' :: read) rest
    | none => none
  | c :: rest => if c.toNat < 0x20 ∨ c = '\\' then none else readQuoted (c :: read) rest
  | [] => none

/-- The first half of a pair of surrogates. -/
def isHighSurrogate (unit : Nat) : Bool := 0xD800 ≤ unit && unit < 0xDC00

/-- The second half of a pair of surrogates. -/
def isLowSurrogate (unit : Nat) : Bool := 0xDC00 ≤ unit && unit ≤ 0xDFFF

/-- The character that a pair of surrogates stands for. -/
def pairOf (high low : Nat) : Char :=
  Char.ofNat (0x10000 + (high - 0xD800) * 0x400 + (low - 0xDC00))

/-- The characters with every escape replaced by what it stands for. The first half of a pair takes
what follows it for the second, and the closing quote too, so that a half at the very end leaves a
reader behind the value. `read` holds the characters before, last one first. -/
def unescape (read : List Char) : List Char → Except Fault (List Char)
  | '\\' :: 'u' :: a :: b :: c :: d :: rest =>
    let unit := (hex4? a b c d).getD 0
    if isLowSurrogate unit then .error .within
    else if isHighSurrogate unit then
      match rest with
      | '\\' :: 'u' :: a :: b :: c :: d :: rest =>
        let low := (hex4? a b c d).getD 0
        if isLowSurrogate low then unescape (pairOf unit low :: read) rest else .error .within
      | [] => .error .behind
      | _ => .error .within
    else unescape (Char.ofNat unit :: read) rest
  | '\\' :: c :: rest => unescape ((simpleEscape? c).getD c :: read) rest
  | c :: rest => unescape (c :: read) rest
  | [] => .ok read.reverse

/-- What is written between quotes. Octets that are not UTF-8 are found when the end is reached. -/
def quotedText (encoding : Encoding) (written : List Char) : Except Fault String :=
  match encoding.decode written with
  | some cs => (unescape [] cs).map String.ofList
  | none =>
    match unescape [] written with
    | .ok _ => .error .behind
    | .error fault => .error fault

end TenantAccess.Json
