import TenantAccess.Calendar
import TenantAccess.Text.Ascii
import TenantAccess.Text.Blank

/-!
# Points in time

A `Timestamp` is a second of coordinated universal time and the nanoseconds passed in it; a leap
second is the second before it with more than 10^9 nanoseconds.  Timestamps are written in the
format of RFC 3339 with the fewest of 0, 3, 6 or 9 fraction digits, and read from a relaxed form of
it: one-digit fields, blanks between the fields, a space or a small `t` between date and time, and
any offset below 24 hours.
-/

namespace TenantAccess

/-- A point in time with a precision of one nanosecond. -/
structure Timestamp where
  /-- Seconds from the start of 1970, leap seconds not counted. -/
  seconds : Int
  /-- Nanoseconds passed in that second; 10^9 and more in a leap second. -/
  nanos : Nat
deriving DecidableEq, Repr, Inhabited

namespace Timestamp

/-- The second, then the fraction decides. -/
def compare (s t : Timestamp) : Ordering :=
  (Ord.compare s.seconds t.seconds).then (Ord.compare s.nanos t.nanos)

instance : Ord Timestamp := ⟨compare⟩

/-- Not later than. -/
def le (s t : Timestamp) : Bool := (compare s t).isLE

/-- Earlier than. -/
def lt (s t : Timestamp) : Bool := (compare s t).isLT

/-- The first second of the year -262143. -/
def firstSecond : Int := -8334601228800

/-- The last second of the year 262142. -/
def lastSecond : Int := 8210266876799

/-- The start of a second, when the second can be represented. -/
def ofSeconds? (seconds : Int) : Option Timestamp :=
  if firstSecond ≤ seconds ∧ seconds ≤ lastSecond then some ⟨seconds, 0⟩ else none

/-! ## Writing -/

/-- A number in decimal digits, with zeros in front up to a width. -/
def padded (width n : Nat) : String :=
  let digits := toString n
  String.ofList (List.replicate (width - digits.length) '0') ++ digits

/-- The year in four digits, or with a sign when it has no such form. -/
def yearText (year : Int) : String :=
  if 0 ≤ year ∧ year ≤ 9999 then padded 4 year.toNat
  else (if year < 0 then "-" else "+") ++ padded 4 year.natAbs

/-- The fraction of a second in the fewest of 0, 3, 6 or 9 digits. -/
def fractionText (nanos : Nat) : String :=
  if nanos = 0 then ""
  else if nanos % 1000000 = 0 then "." ++ padded 3 (nanos / 1000000)
  else if nanos % 1000 = 0 then "." ++ padded 6 (nanos / 1000)
  else "." ++ padded 9 nanos

/-- The written form. -/
def text (t : Timestamp) : String :=
  let date := CivilDate.ofDays (t.seconds / 86400)
  let secondOfDay := (t.seconds % 86400).toNat
  let leap := 1000000000 ≤ t.nanos
  yearText date.year ++ "-" ++ padded 2 date.month ++ "-" ++ padded 2 date.day ++ "T"
    ++ padded 2 (secondOfDay / 3600) ++ ":" ++ padded 2 (secondOfDay / 60 % 60) ++ ":"
    ++ padded 2 (secondOfDay % 60 + if leap then 1 else 0)
    ++ fractionText (if leap then t.nanos - 1000000000 else t.nanos) ++ "Z"

instance : ToString Timestamp := ⟨text⟩

/-! ## Reading -/

/-- The characters without the blanks before the first other one. -/
def skipBlanks (cs : List Char) : List Char := cs.dropWhile Text.isBlank

/-- The number written by decimal digits. -/
def decimal (digits : List Char) : Nat :=
  digits.foldl (fun n c => n * 10 + (c.toNat - '0'.toNat)) 0

/-- A number of one to `width` digits, and what follows it. -/
def number? (width : Nat) (cs : List Char) : Option (Nat × List Char) :=
  let digits := (cs.take width).takeWhile Char.isDigit
  if digits.isEmpty then none else some (decimal digits, cs.drop digits.length)

/-- A number after blanks, and what follows it. -/
def field? (width : Nat) (cs : List Char) : Option (Nat × List Char) :=
  number? width (skipBlanks cs)

/-- What follows a mark that blanks may precede. -/
def mark? (mark : Char) (cs : List Char) : Option (List Char) :=
  Text.dropBeginning? [mark] (skipBlanks cs)

/-- A year: up to four digits, or any number of them after a sign. -/
def year? (cs : List Char) : Option (Int × List Char) :=
  let cs := skipBlanks cs
  match cs with
  | '-' :: rest => (number? rest.length rest).map fun (n, rest) => (-(n : Int), rest)
  | '+' :: rest => (number? rest.length rest).map fun (n, rest) => ((n : Int), rest)
  | _ => (number? 4 cs).map fun (n, rest) => ((n : Int), rest)

/-- The nanoseconds of an optional fraction; digits beyond the ninth are passed over. -/
def fraction? (cs : List Char) : Option (Nat × List Char) :=
  match cs with
  | '.' :: rest =>
    let digits := rest.takeWhile Char.isDigit
    if digits.isEmpty then none
    else some (decimal ((digits.take 9).rightpad 9 '0'), rest.drop digits.length)
  | _ => some (0, cs)

/-- A number of exactly two digits, and what follows it. -/
def twoDigits? (cs : List Char) : Option (Nat × List Char) :=
  match cs with
  | a :: b :: rest => if a.isDigit && b.isDigit then some (decimal [a, b], rest) else none
  | _ => none

/-- The offset from universal time in seconds, below 24 hours either way. -/
def offset? (cs : List Char) : Option (Int × List Char) :=
  let cs := skipBlanks cs
  if (cs.take 3).map Char.toUpper = ['U', 'T', 'C'] then some (0, cs.drop 3)
  else match cs with
    | 'Z' :: rest | 'z' :: rest => some (0, rest)
    | sign :: rest => do
      let negative ← match sign with
        | '+' => some false
        | '-' | '−' => some true
        | _ => none
      let (hours, rest) ← twoDigits? rest
      let (minutes, rest) ← twoDigits? (rest.dropWhile fun c => c = ':' || Text.isBlank c)
      let seconds : Int := hours * 3600 + minutes * 60
      if minutes < 60 ∧ seconds < 86400 then
        some (if negative then -seconds else seconds, rest)
      else none
    | [] => none

/-- Read a point in time. -/
def read? (cs : List Char) : Option Timestamp := do
  let (year, cs) ← year? cs
  let cs ← mark? '-' cs
  let (month, cs) ← field? 2 cs
  let cs ← mark? '-' cs
  let (day, cs) ← field? 2 cs
  let cs ← match cs with
    | 'T' :: rest | 't' :: rest | ' ' :: rest => some rest
    | _ => none
  let (hour, cs) ← field? 2 cs
  let cs ← mark? ':' cs
  let (minute, cs) ← field? 2 cs
  let cs ← mark? ':' cs
  let (second, cs) ← field? 2 cs
  let (nanos, cs) ← fraction? cs
  let (offset, cs) ← offset? cs
  let date : CivilDate := ⟨year, month, day⟩
  if (skipBlanks cs).isEmpty ∧ date.isReal ∧ hour < 24 ∧ minute < 60 ∧ second ≤ 60
      ∧ -262143 ≤ year ∧ year ≤ 262142 then
    let leap := second = 60
    let secondOfDay : Int := hour * 3600 + minute * 60 + (if leap then 59 else second)
    let start ← ofSeconds? (date.toDays * 86400 + secondOfDay - offset)
    some { start with nanos := nanos + if leap then 1000000000 else 0 }
  else none

/-- The point in time a text names, if it names one. -/
def ofText? (s : String) : Option Timestamp := read? s.toList

/-- The point in time cut to microseconds as a database keeps it: counted from the start of 2000 and
cut towards that moment, with a leap second counted as the second after it. -/
def toMicroseconds (t : Timestamp) : Timestamp :=
  let sinceCentury : Int := (t.seconds - 946684800) * 1000000000 + t.nanos
  let micros := sinceCentury.tdiv 1000
  ⟨946684800 + micros / 1000000, (micros % 1000000).toNat * 1000⟩

/-- The last whole microsecond that is not after the point in time, with a leap second counted as
the second after it. -/
def floorMicroseconds (t : Timestamp) : Timestamp :=
  let micros := t.nanos / 1000
  ⟨t.seconds + micros / 1000000, micros % 1000000 * 1000⟩

end Timestamp
end TenantAccess
