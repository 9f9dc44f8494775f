/-!
# Unsigned numbers of 64 bits as text

Decimal digits with an optional plus sign.  Digits are taken one by one, so that of two faults the
one met first is reported.
-/

namespace TenantAccess

/-- Why a text is not an unsigned number of 64 bits. -/
inductive Natural64Error where
  | noDigits
  | invalidDigit
  | tooLarge
deriving DecidableEq, Repr

/-- The error as a message. -/
def Natural64Error.message : Natural64Error → String
  | noDigits => "cannot parse integer from empty string"
  | invalidDigit => "invalid digit found in string"
  | tooLarge => "number too large to fit in target type"

namespace Natural64

/-- Continue a number with the digits that follow. -/
def extend (n : Nat) : List Char → Except Natural64Error Nat
  | [] => .ok n
  | c :: rest =>
    if !c.isDigit then .error .invalidDigit
    else
      let n := n * 10 + (c.toNat - '0'.toNat)
      if n < 2 ^ 64 then extend n rest else .error .tooLarge

/-- Read a number. -/
def parse (s : String) : Except Natural64Error Nat :=
  match s.toList with
  | [] => .error .noDigits
  | ['+'] => .error .invalidDigit
  | '+' :: digits => extend 0 digits
  | digits => extend 0 digits

end Natural64
end TenantAccess
