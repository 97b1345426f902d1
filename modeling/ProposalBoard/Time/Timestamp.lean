import ProposalBoard.Json.Basic
import ProposalBoard.Text.Numeral
import ProposalBoard.Time.Instant

/-!
# Timestamps

The written form of instants: date and time of day in universal time with the letter Z behind.
Reading is more generous than writing. It takes any offset from universal time, a small letter or
a space between date and time, numbers without leading zeros and blanks between the parts.
-/

namespace ProposalBoard

/-- A date and time of day as read from a clock that runs ahead of universal time by an offset. -/
structure Timestamp where
  date : Date
  hour : Nat
  minute : Nat
  /-- The second of the minute. Sixty is a leap second. -/
  second : Nat
  nanos : Nat
  /-- The seconds by which the clock is ahead. -/
  offset : Int

namespace Timestamp

open Text

/-! ## Reading -/

/-- Reads a run of one digit up to the given count of digits. -/
def readDigits (most : Nat) (s : List Char) : Option (Nat × List Char) :=
  let ds := (s.take most).takeWhile Char.isDigit
  if ds = [] then none else some (digitsValue ds, s.drop ds.length)

/-- Reads a number of up to the given count of digits, with blanks in front. -/
def readNumber (most : Nat) (s : List Char) : Option (Nat × List Char) :=
  readDigits most (trimLeft s)

/-- Reads a year, with blanks in front: a sign and any count of digits, or up to four digits. -/
def readYear (s : List Char) : Option (Int × List Char) :=
  match trimLeft s with
  | '-' :: rest => (readDigits rest.length rest).map fun (n, rest) => (-(n : Int), rest)
  | '+' :: rest => (readDigits rest.length rest).map fun (n, rest) => ((n : Int), rest)
  | s => (readDigits 4 s).map fun (n, rest) => ((n : Int), rest)

/-- Reads a separator, with blanks in front. -/
def readMark (mark : Char) (s : List Char) : Option (List Char) :=
  match trimLeft s with
  | c :: rest => if c = mark then some rest else none
  | [] => none

/-- Reads what stands between date and time. -/
def readDivider : List Char → Option (List Char)
  | 'T' :: rest | 't' :: rest | ' ' :: rest => some rest
  | _ => none

/-- Reads the fraction of a second as nanoseconds, digits behind the ninth being dropped. -/
def readFraction : List Char → Option (Nat × List Char)
  | '.' :: rest =>
    let ds := rest.takeWhile Char.isDigit
    if ds = [] then none
    else some (digitsValue ((ds ++ List.replicate 9 '0').take 9), rest.dropWhile Char.isDigit)
  | s => some (0, s)

/-- Reads two digits. -/
def readTwoDigits : List Char → Option (Nat × List Char)
  | a :: b :: rest => if a.isDigit && b.isDigit then some (digitsValue [a, b], rest) else none
  | _ => none

/-- Reads hours and minutes, with any run of colons and blanks between them, as seconds. -/
def readHoursMinutes (s : List Char) : Option (Int × List Char) := do
  let (hours, s) ← readTwoDigits s
  let (minutes, s) ← readTwoDigits (s.dropWhile fun c => c = ':' || isBlank c)
  if minutes < 60 then some (hours * 3600 + minutes * 60, s) else none

/-- Reads an offset: the word UTC, the letter Z, or a sign with hours and minutes. The minus sign
may be a hyphen or the mathematical sign. -/
def readOffset : List Char → Option (Int × List Char)
  | 'Z' :: rest | 'z' :: rest => some (0, rest)
  | '+' :: rest => readHoursMinutes rest
  | '-' :: rest | '−' :: rest => (readHoursMinutes rest).map fun (n, rest) => (-n, rest)
  | u :: t :: c :: rest =>
    if u.toUpper = 'U' ∧ t.toUpper = 'T' ∧ c.toUpper = 'C' then some (0, rest) else none
  | _ => none

/-- Reads a whole timestamp. -/
def ofText? (text : String) : Option Timestamp := do
  let (year, s) ← readYear text.toList
  let s ← readMark '-' s
  let (month, s) ← readNumber 2 s
  let s ← readMark '-' s
  let (day, s) ← readNumber 2 s
  let s ← readDivider s
  let (hour, s) ← readNumber 2 s
  let s ← readMark ':' s
  let (minute, s) ← readNumber 2 s
  let s ← readMark ':' s
  let (second, s) ← readNumber 2 s
  let (nanos, s) ← readFraction s
  let (offset, s) ← readOffset (trimLeft s)
  if trimLeft s = [] then some ⟨⟨year, month, day⟩, hour, minute, second, nanos, offset⟩ else none

/-- Whether the calendar and the clock have the parts of a timestamp, in the years of instants,
with the clock less than a day off. -/
def Exists (t : Timestamp) : Prop :=
  t.date.Exists ∧ -262143 ≤ t.date.year ∧ t.date.year ≤ 262142 ∧ t.hour < 24 ∧ t.minute < 60 ∧
    t.second ≤ 60 ∧ -86400 < t.offset ∧ t.offset < 86400

instance (t : Timestamp) : Decidable t.Exists :=
  inferInstanceAs (Decidable (_ ∧ _))

/-- The instant that a timestamp denotes. -/
def instant? (t : Timestamp) : Option Instant :=
  if t.Exists then
    let seconds := t.date.toDayNumber * 86400 + t.hour * 3600 + t.minute * 60 + min t.second 59
    Instant.ofParts? (seconds - t.offset) (if t.second = 60 then t.nanos + 1000000000 else t.nanos)
  else none

/-! ## Writing -/

/-- The timestamp of an instant in universal time. -/
def ofInstant (t : Instant) : Timestamp :=
  let timeOfDay := (t.seconds % 86400).toNat
  { date := .ofDayNumber (t.seconds / 86400)
    hour := timeOfDay / 3600
    minute := timeOfDay / 60 % 60
    second := if t.isLeap then 60 else timeOfDay % 60
    nanos := t.nanos % 1000000000
    offset := 0 }

/-- A year with four digits, or with a sign and at least four digits if it is before year zero or
has five digits. -/
def writeYear (year : Int) : List Char :=
  if 0 ≤ year ∧ year ≤ 9999 then paddedDigits 4 year.natAbs
  else (if year < 0 then '-' else '+') :: paddedDigits 4 year.natAbs

/-- A fraction of a second with none, three, six or nine digits, the fewest that lose nothing. -/
def writeFraction (nanos : Nat) : List Char :=
  if nanos = 0 then []
  else if nanos % 1000000 = 0 then '.' :: paddedDigits 3 (nanos / 1000000)
  else if nanos % 1000 = 0 then '.' :: paddedDigits 6 (nanos / 1000)
  else '.' :: paddedDigits 9 nanos

/-- The text of a timestamp in universal time. -/
def toText (t : Timestamp) : String :=
  String.ofList <| writeYear t.date.year ++ '-' :: paddedDigits 2 t.date.month
    ++ '-' :: paddedDigits 2 t.date.day ++ 'T' :: paddedDigits 2 t.hour
    ++ ':' :: paddedDigits 2 t.minute ++ ':' :: paddedDigits 2 t.second
    ++ writeFraction t.nanos ++ ['Z']

end Timestamp

namespace Instant

/-- The instant that a text denotes. -/
def ofText? (text : String) : Option Instant :=
  (Timestamp.ofText? text).bind Timestamp.instant?

/-- The text of an instant. -/
def toText (t : Instant) : String :=
  (Timestamp.ofInstant t).toText

end Instant

instance : Codec Instant where
  encode t := .str t.toText
  decode?
    | .str s => Instant.ofText? s
    | _ => none

end ProposalBoard
