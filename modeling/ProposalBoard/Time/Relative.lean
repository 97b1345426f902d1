import ProposalBoard.Text.Numeral
import ProposalBoard.Time.Instant

/-!
# Relative time

How far an instant is from now, in words: one unit, rounded, with a phrase for one of each. The
unit changes where the next larger one tells the span better: forty-five seconds are a minute,
ninety seconds two minutes, forty-five minutes an hour, and so on up to years.
-/

namespace ProposalBoard

/-- The size of a span of time in the unit that it is told in. -/
inductive Magnitude where
  | fewSeconds
  | minute
  | minutes (n : Nat)
  | hour
  | hours (n : Nat)
  | day
  | days (n : Nat)
  | month
  | months (n : Nat)
  | year
  | years (n : Nat)
deriving DecidableEq, Repr

namespace Magnitude

/-- The seconds of an average month of the Gregorian calendar. -/
def secondsPerMonth : Nat := 2629746

/-- The number of units in a value, rounded to the nearest. -/
def rounded (value unit : Nat) : Nat :=
  (value + unit / 2) / unit

/-- A count of units, which is told as a single one up to one. -/
def counted (n : Nat) (one : Magnitude) (many : Nat → Magnitude) : Magnitude :=
  if n ≤ 1 then one else many n

/-- The magnitude of a number of seconds. -/
def ofSeconds (seconds : Nat) : Magnitude :=
  let inMinutes := rounded seconds 60
  let inHours := rounded seconds 3600
  let inDays := rounded seconds 86400
  let inMonths := rounded seconds secondsPerMonth
  if seconds < 45 then fewSeconds
  else if seconds < 90 then minute
  else if inMinutes < 45 then counted inMinutes minute minutes
  else if inMinutes < 90 then hour
  else if inHours < 22 then counted inHours hour hours
  else if inHours < 36 then day
  else if inDays < 26 then counted inDays day days
  else if inDays < 46 then month
  else if inMonths < 11 then counted inMonths month months
  else if inMonths < 18 then year
  else counted (rounded inMonths 12) year years

/-- A count in front of the name of its unit. -/
def countPhrase (n : Nat) (units : String) : String :=
  String.ofList (Text.digits n) ++ " " ++ units

/-- The words for a magnitude. -/
def phrase : Magnitude → String
  | fewSeconds => "a few seconds"
  | minute => "a minute"
  | minutes n => countPhrase n "minutes"
  | hour => "an hour"
  | hours n => countPhrase n "hours"
  | day => "a day"
  | days n => countPhrase n "days"
  | month => "a month"
  | months n => countPhrase n "months"
  | year => "a year"
  | years n => countPhrase n "years"

end Magnitude

/-- A way to put an instant into words, given the present one. -/
abbrev TimePhrasing := (instant now : Instant) → String

/-- An instant in words: its rounded distance from now, told as ahead or past. An instant less
than a second past counts as ahead. -/
def humanized : TimePhrasing := fun instant now =>
  let seconds := instant.secondsSince now
  let distance := (Magnitude.ofSeconds seconds.natAbs).phrase
  if 0 ≤ seconds then "in " ++ distance else distance ++ " ago"

end ProposalBoard
