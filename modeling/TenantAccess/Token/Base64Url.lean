/-!
# Base64 for URLs

Octets written with the alphabet of RFC 4648 section 5, without padding.  Each list of octets has
one written form, and reading refuses every other text.
-/

namespace TenantAccess.Base64Url

/-- The character for a number below 64. -/
def encodeSextet (n : Nat) : Char :=
  if n < 26 then Char.ofNat ('A'.toNat + n)
  else if n < 52 then Char.ofNat ('a'.toNat + (n - 26))
  else if n < 62 then Char.ofNat ('0'.toNat + (n - 52))
  else if n = 62 then '-'
  else '_'

/-- The number below 64 for a character. -/
def decodeSextet? (c : Char) : Option Nat :=
  if 'A' ≤ c ∧ c ≤ 'Z' then some (c.toNat - 'A'.toNat)
  else if 'a' ≤ c ∧ c ≤ 'z' then some (c.toNat - 'a'.toNat + 26)
  else if '0' ≤ c ∧ c ≤ '9' then some (c.toNat - '0'.toNat + 52)
  else if c = '-' then some 62
  else if c = '_' then some 63
  else none

/-- The written form. -/
def encode : List UInt8 → List Char
  | a :: b :: c :: rest =>
    let n := (a.toNat * 256 + b.toNat) * 256 + c.toNat
    encodeSextet (n / 262144) :: encodeSextet (n / 4096 % 64) :: encodeSextet (n / 64 % 64)
      :: encodeSextet (n % 64) :: encode rest
  | [a, b] =>
    let n := (a.toNat * 256 + b.toNat) * 4
    [encodeSextet (n / 4096), encodeSextet (n / 64 % 64), encodeSextet (n % 64)]
  | [a] =>
    let n := a.toNat * 16
    [encodeSextet (n / 64), encodeSextet (n % 64)]
  | [] => []

/-- Read octets; bits beyond the last octet have to be zero. -/
def decode? : List Char → Option (List UInt8)
  | a :: b :: c :: d :: rest => do
    let n := (((← decodeSextet? a) * 64 + (← decodeSextet? b)) * 64 + (← decodeSextet? c)) * 64
      + (← decodeSextet? d)
    some ((n / 65536).toUInt8 :: (n / 256).toUInt8 :: n.toUInt8 :: (← decode? rest))
  | [a, b, c] => do
    let n := ((← decodeSextet? a) * 64 + (← decodeSextet? b)) * 64 + (← decodeSextet? c)
    if n % 4 = 0 then some [(n / 1024).toUInt8, (n / 4).toUInt8] else none
  | [a, b] => do
    let n := (← decodeSextet? a) * 64 + (← decodeSextet? b)
    if n % 16 = 0 then some [(n / 16).toUInt8] else none
  | [_] => none
  | [] => some []

end TenantAccess.Base64Url
