import TenantAccess.Json.Basic
import TenantAccess.Text.Ascii

/-!
# The size of numbers

A number that has to be held is held as a floating-point number of 64 bits.  Its digits are read once
from left to right: they make a significand as long as it fits 64 bits, and from the first digit that
does not fit, a digit before the point only raises the exponent and one behind it counts nothing.  The
number is the significand times a power of ten, each rounded to 53 bits, and it is too large when this
product rounds to infinity.
-/

namespace TenantAccess.Json

/-- The whole number nearest to the given one among those of 53 bits followed by zeros; of two that
are equally near the one with the even significand. -/
def nearestFloat (n : Nat) : Nat :=
  let unit := 1 <<< (n.log2 - 52)
  let quotient := n / unit
  let rest := n % unit
  if unit < 2 * rest ∨ (2 * rest = unit ∧ quotient % 2 = 1) then (quotient + 1) * unit
  else quotient * unit

/-- The smallest number that rounds to infinity: half a step above the largest floating-point number
of 64 bits. -/
def overflowBound : Nat := 1 <<< 1024 - 1 <<< 970

/-- A whole number times a power of ten. -/
structure Scientific where
  significand : Nat
  exponent : Int
deriving DecidableEq, Repr

namespace Scientific

/-- The number continued by digits before the point. -/
def extend (s : Scientific) : List Char → Scientific
  | [] => s
  | c :: rest =>
    let next := s.significand * 10 + Text.digitValue c
    if next < 2 ^ 64 then extend { s with significand := next } rest
    else { s with exponent := s.exponent + (rest.length + 1) }

/-- The number continued by digits behind the point. -/
def extendFraction (s : Scientific) : List Char → Scientific
  | [] => s
  | c :: rest =>
    let next := s.significand * 10 + Text.digitValue c
    if next < 2 ^ 64 then extendFraction ⟨next, s.exponent - 1⟩ rest else s

/-- The number times a further power of ten. -/
def scale (s : Scientific) (exponent : Int) : Scientific :=
  { s with exponent := s.exponent + exponent }

/-- The number is too large for a floating-point number of 64 bits. -/
def isTooLarge (s : Scientific) : Bool :=
  if s.significand = 0 then false
  else if s.exponent < 0 then false
  else if 308 < s.exponent then true
  else overflowBound ≤ nearestFloat s.significand * nearestFloat (Nat.pow 10 s.exponent.toNat)

end Scientific

/-- What follows the digit with which a number leaves the range of 31 bits, if one does. -/
def leavingRange? (n : Nat) : List Char → Option (List Char)
  | [] => none
  | c :: rest =>
    let next := n * 10 + Text.digitValue c
    if next < 2 ^ 31 then leavingRange? next rest else some rest

/-- How reading a number as one of 64 bits fails, if it does. An exponent beyond 31 bits is given up
at the digit that leads there. -/
def literalFault? (literal : List Char) : Option Fault :=
  let mantissa := literal.takeWhile (· != 'e')
  let whole := (mantissa.takeWhile (· != '.')).filter Char.isDigit
  let fraction := (mantissa.dropWhile (· != '.')).drop 1
  let number := ((Scientific.mk 0 0).extend whole).extendFraction fraction
  let exponent := (literal.dropWhile (· != 'e')).drop 1
  let negative := exponent.head? == some '-'
  let digits := exponent.filter Char.isDigit
  match leavingRange? 0 digits with
  | some rest =>
    if negative || number.significand = 0 then none
    else if rest.isEmpty then some .behind
    else some .within
  | none =>
    let power : Int := Text.decimalValue digits
    if (number.scale (if negative then -power else power)).isTooLarge then some .behind else none

/-- How reading the number as one of 64 bits fails, if it does. -/
def Number.fault? : Number → Option Fault
  | .integer n => literalFault? (toString n).toList
  | .decimal literal => literalFault? literal.toList

end TenantAccess.Json
