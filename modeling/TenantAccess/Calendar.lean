/-!
# The Gregorian calendar

Days counted from 1 January 1970 against year, month and day, for all years of the proleptic
Gregorian calendar, the year zero and the years before it included.
-/

namespace TenantAccess

/-- A day named by year, month and day of the month. -/
structure CivilDate where
  year : Int
  /-- 1 to 12. -/
  month : Nat
  /-- 1 to 31. -/
  day : Nat
deriving DecidableEq, Repr

namespace CivilDate

/-- The year has a 29 February. -/
def isLeapYear (year : Int) : Bool :=
  year % 4 = 0 && (year % 100 != 0 || year % 400 = 0)

/-- The number of days of a month. -/
def daysInMonth (year : Int) (month : Nat) : Nat :=
  match month with
  | 2 => if isLeapYear year then 29 else 28
  | 4 | 6 | 9 | 11 => 30
  | _ => 31

/-- The date exists. -/
def isReal (date : CivilDate) : Bool :=
  1 ≤ date.month && date.month ≤ 12 && 1 ≤ date.day && date.day ≤ daysInMonth date.year date.month

/-- Days from 1 January 1970 to the date. Years are counted from March, so that the leap day is the
last day of a year, in cycles of 400 years. -/
def toDays (date : CivilDate) : Int :=
  let year := if date.month ≤ 2 then date.year - 1 else date.year
  let cycle := year / 400
  let yearOfCycle := year % 400
  let monthFromMarch := (date.month + 9) % 12
  let dayOfYear := (153 * monthFromMarch + 2) / 5 + (date.day - 1)
  let dayOfCycle := yearOfCycle * 365 + yearOfCycle / 4 - yearOfCycle / 100 + dayOfYear
  cycle * 146097 + dayOfCycle - 719468

/-- The date that lies the given number of days after 1 January 1970. -/
def ofDays (days : Int) : CivilDate :=
  let fromMarch := days + 719468
  let cycle := fromMarch / 146097
  let dayOfCycle := (fromMarch % 146097).toNat
  let yearOfCycle :=
    (dayOfCycle - dayOfCycle / 1460 + dayOfCycle / 36524 - dayOfCycle / 146096) / 365
  let dayOfYear := dayOfCycle - (365 * yearOfCycle + yearOfCycle / 4 - yearOfCycle / 100)
  let monthFromMarch := (5 * dayOfYear + 2) / 153
  let month := if monthFromMarch < 10 then monthFromMarch + 3 else monthFromMarch - 9
  { year := yearOfCycle + cycle * 400 + (if month ≤ 2 then 1 else 0)
    month := month
    day := dayOfYear - (153 * monthFromMarch + 2) / 5 + 1 }

end CivilDate
end TenantAccess
