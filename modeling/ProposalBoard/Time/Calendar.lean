/-!
# Calendar

Dates of the Gregorian calendar, extended to all years, and their count as days from the first of
January 1970. Years are counted from March here, so that a leap day is the last day of its year
and the lengths of the months before a date do not depend on the year.
-/

namespace ProposalBoard

/-- A date of the Gregorian calendar. The year before year one is year zero. -/
structure Date where
  year : Int
  month : Nat
  day : Nat
deriving DecidableEq, Repr

namespace Date

/-- Whether a year has a leap day. -/
def isLeapYear (year : Int) : Bool :=
  year % 4 = 0 && (year % 100 ≠ 0 || year % 400 = 0)

/-- The number of days of a month. -/
def daysInMonth (year : Int) : Nat → Nat
  | 2 => if isLeapYear year then 29 else 28
  | 4 | 6 | 9 | 11 => 30
  | _ => 31

/-- Whether the calendar has the date. -/
def Exists (d : Date) : Prop :=
  1 ≤ d.month ∧ d.month ≤ 12 ∧ 1 ≤ d.day ∧ d.day ≤ daysInMonth d.year d.month

instance (d : Date) : Decidable d.Exists :=
  inferInstanceAs (Decidable (_ ∧ _))

/-- The days from the first of March of year zero to the first of January 1970. -/
def daysBefore1970 : Int := 719468

/-- The days of four hundred years, after which the calendar repeats. -/
def daysPerCycle : Int := 146097

/-- The days from the first of March of a year, the first of a cycle being year zero, that lie
before the given year of the cycle. -/
def daysBeforeYear (year : Int) : Int :=
  year * 365 + year / 4 - year / 100

/-- The days before a month, the months being counted from March as zero. -/
def daysBeforeMonth (month : Int) : Int :=
  (153 * month + 2) / 5

/-- The number of days from the first of January 1970 to a date. -/
def toDayNumber (d : Date) : Int :=
  let year := if d.month ≤ 2 then d.year - 1 else d.year
  let month : Int := (d.month + 9) % 12
  year / 400 * daysPerCycle + daysBeforeYear (year % 400) + daysBeforeMonth month + (d.day - 1)
    - daysBefore1970

/-- The date that is the given number of days after the first of January 1970. -/
def ofDayNumber (n : Int) : Date :=
  let fromMarch := n + daysBefore1970
  let dayOfCycle := fromMarch % daysPerCycle
  let yearOfCycle :=
    (dayOfCycle - dayOfCycle / 1460 + dayOfCycle / 36524 - dayOfCycle / 146096) / 365
  let dayOfYear := dayOfCycle - daysBeforeYear yearOfCycle
  let month := (5 * dayOfYear + 2) / 153
  let day := dayOfYear - daysBeforeMonth month + 1
  let year := fromMarch / daysPerCycle * 400 + yearOfCycle
  if month < 10 then ⟨year, (month + 3).toNat, day.toNat⟩
  else ⟨year + 1, (month - 9).toNat, day.toNat⟩

end Date

end ProposalBoard
