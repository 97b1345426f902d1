import ProposalBoard.Time.Calendar

/-!
# Instants

Points in time as seconds from the start of 1970, without leap seconds, and nanoseconds into the
second. A leap second is the second before it with a thousand million nanoseconds more, so that
instants are ordered by their two parts. Instants lie in the years -262143 to 262142.
-/

namespace ProposalBoard

/-- A point in time. -/
structure Instant where
  /-- The whole seconds from the start of 1970. -/
  seconds : Int
  /-- The nanoseconds into the second, or into the leap second behind it. -/
  nanos : Nat
  seconds_range : -8334601228800 ≤ seconds ∧ seconds ≤ 8210266876799
  nanos_lt : nanos < 2000000000
  leap_at_59 : 1000000000 ≤ nanos → seconds % 60 = 59
deriving DecidableEq

namespace Instant

/-- The first second of the year -262143. -/
def firstSecond : Int := -8334601228800

/-- The last second of the year 262142. -/
def lastSecond : Int := 8210266876799

/-- The range of instants is whole years of the calendar. -/
theorem range_eq : firstSecond = (Date.mk (-262143) 1 1).toDayNumber * 86400 ∧
    lastSecond = (Date.mk 262142 12 31).toDayNumber * 86400 + 86399 := by
  decide

/-- The start of 1970. -/
def epoch : Instant := ⟨0, 0, by decide, by decide, by decide⟩

instance : Inhabited Instant := ⟨epoch⟩

/-- The start of a second, if it is in range. -/
def ofSeconds? (seconds : Int) : Option Instant :=
  if h : firstSecond ≤ seconds ∧ seconds ≤ lastSecond then
    some ⟨seconds, 0, h, by decide, by intro h; omega⟩
  else none

/-- The instant with the given parts, if it is in range. -/
def ofParts? (seconds : Int) (nanos : Nat) : Option Instant :=
  if h : (firstSecond ≤ seconds ∧ seconds ≤ lastSecond) ∧ nanos < 2000000000 ∧
      (1000000000 ≤ nanos → seconds % 60 = 59) then
    some ⟨seconds, nanos, h.1, h.2.1, h.2.2⟩
  else none

/-- Whether the instant lies in a leap second. -/
def isLeap (t : Instant) : Bool :=
  1000000000 ≤ t.nanos

/-- One instant is before another. -/
protected def Before (t u : Instant) : Prop :=
  t.seconds < u.seconds ∨ (t.seconds = u.seconds ∧ t.nanos < u.nanos)

/-- One instant is not after another. -/
protected def NotAfter (t u : Instant) : Prop :=
  t.seconds < u.seconds ∨ (t.seconds = u.seconds ∧ t.nanos ≤ u.nanos)

instance : LT Instant := ⟨Instant.Before⟩

instance : LE Instant := ⟨Instant.NotAfter⟩

instance (t u : Instant) : Decidable (t < u) :=
  inferInstanceAs (Decidable (_ ∨ _))

instance (t u : Instant) : Decidable (t ≤ u) :=
  inferInstanceAs (Decidable (_ ∨ _))

/-- Instants are ordered by their seconds, and in one second by their nanoseconds. -/
theorem lt_def {t u : Instant} :
    t < u ↔ t.seconds < u.seconds ∨ (t.seconds = u.seconds ∧ t.nanos < u.nanos) :=
  Iff.rfl

/-- An instant is no later than another by its seconds, or in one second by its nanoseconds. -/
theorem le_def {t u : Instant} :
    t ≤ u ↔ t.seconds < u.seconds ∨ (t.seconds = u.seconds ∧ t.nanos ≤ u.nanos) :=
  Iff.rfl

/-- Two instants with the same parts are the same. -/
@[ext] theorem ext {t u : Instant} (hs : t.seconds = u.seconds) (hn : t.nanos = u.nanos) :
    t = u := by
  cases t; cases u; cases hs; cases hn; rfl

/-- The instant a number of seconds later, if it is in range. A leap second counts as one of the
seconds passed over; moving by no seconds stays inside it. -/
def addSeconds? (t : Instant) (seconds : Int) : Option Instant :=
  if t.isLeap ∧ seconds < 0 then ofParts? (t.seconds + 1 + seconds) (t.nanos - 1000000000)
  else if t.isLeap ∧ 0 < seconds then ofParts? (t.seconds + seconds) (t.nanos - 1000000000)
  else ofParts? (t.seconds + seconds) t.nanos

/-- The leap second that is passed over between the times of day of two instants: counted when it
is at the earlier of the two. -/
def leapAdjustment (t since : Instant) : Int :=
  let timeOfDay := t.seconds % 86400
  let timeOfDaySince := since.seconds % 86400
  if timeOfDaySince < timeOfDay ∧ since.isLeap then 1
  else if timeOfDay < timeOfDaySince ∧ t.isLeap then -1
  else 0

/-- The nanoseconds from one instant to another. -/
def nanosSince (t since : Instant) : Int :=
  (t.seconds - since.seconds + t.leapAdjustment since) * 1000000000 + (t.nanos - since.nanos)

/-- The whole seconds from one instant to another, rounded toward zero. -/
def secondsSince (t since : Instant) : Int :=
  (t.nanosSince since).tdiv 1000000000

end Instant

end ProposalBoard
