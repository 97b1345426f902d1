import Mathlib.Data.Nat.Cast.Order.Basic
import Mathlib.Tactic.SplitIfs
import ProposalBoard.Board.Row
import ProposalBoard.Proofs.BlockPlacement
import ProposalBoard.Proofs.CheckedWord
import ProposalBoard.Proofs.Motion
import ProposalBoard.Proofs.RelativeTime

/-!
# Boards on machine words

The times of a board are reckoned on integers here and on machine words by a program. What a
program reckons is written down with checked words, once for each place: the time of a block, the
end of the grace after an eta, and the phrase for an instant. The first two treat what no word holds
as an unknown time. The last one has no such way out, and needs none: instants are too close to each
other for any of its steps to overflow. The main statement `Board.staysInWords` says that for every
board and every configuration these calculations give what the rows show.
-/

namespace ProposalBoard

open CheckedWord
open ChainClock (FitsWord fitsWord_iff fitsWord_of_le)

/-! ## Instants some seconds away -/

namespace Instant

variable {seconds : Int}

instance : Decidable (FitsDuration seconds) :=
  inferInstanceAs (Decidable (_ ∧ _))

/-- The instant a number of seconds later, where the seconds have to make a duration. -/
def addDuration? (t : Instant) (seconds : Int64) : Option Instant :=
  if FitsDuration seconds.toInt then t.addSeconds? seconds.toInt else none

/-- Where durations end, instants have ended before. -/
lemma addDuration?_eq (t : Instant) (seconds : Int64) :
    t.addDuration? seconds = t.addSeconds? seconds.toInt := by
  unfold addDuration?
  split
  · rfl
  · next h => exact (addSeconds?_eq_none_iff.mpr (outOfReach_of_not_fitsDuration h t)).symm

/-- No two instants are further apart than the first second and the last, but for the parts of
leap seconds. -/
lemma natAbs_secondsSince_le (t now : Instant) : (t.secondsSince now).natAbs ≤ 16544868105601 := by
  have hnanos : (t.nanosSince now).natAbs < 16544868105602000000000 := by
    have ht := t.seconds_range
    have hnow := now.seconds_range
    have htnanos := t.nanos_lt
    have hnownanos := now.nanos_lt
    unfold nanosSince leapAdjustment
    simp only
    split_ifs <;> omega
  have hseconds : (t.secondsSince now).natAbs = (t.nanosSince now).natAbs / 1000000000 :=
    Int.natAbs_tdiv _ _
  omega

end Instant

namespace ChainClock

/-- The time of a block as it is reckoned on words. -/
def checkedBlockTime? (clock : ChainClock) (block secondsPerBlock : UInt64) : Option Instant := do
  guard clock.isLoaded
  let target ← ofUnsigned? block
  let current ← ofUnsigned? clock.block
  let blocks ← sub? target current
  let secondsEach ← ofUnsigned? secondsPerBlock
  let seconds ← mul? blocks secondsEach
  clock.now.addDuration? seconds

/-- Reckoned on words, the time of a block is the exact one. -/
lemma checkedBlockTime?_eq (clock : ChainClock) (block secondsPerBlock : UInt64) :
    clock.checkedBlockTime? block secondsPerBlock = clock.blockTime? block secondsPerBlock := by
  unfold checkedBlockTime? blockTime?
  congr 1
  funext _
  refine (computes_ofUnsigned? block).bind_eq fun target htarget => ?_
  refine (computes_ofUnsigned? clock.block).bind_eq fun current hcurrent => ?_
  rw [← htarget, ← hcurrent]
  refine (computes_sub? target current).bind_eq fun blocks hblocks => ?_
  refine (computes_ofUnsigned? secondsPerBlock).bind_eq fun secondsEach hseconds => ?_
  rw [← hblocks, ← hseconds]
  refine (computes_mul? blocks secondsEach).bind_eq fun seconds hproduct => ?_
  rw [← hproduct]
  exact clock.now.addDuration?_eq seconds

/-- A time is known exactly if the chain has been read, the numbers fit words, and the seconds to
the block do not lead out of the range of instants. -/
lemma blockTime?_eq_some_iff_reads {clock : ChainClock} {block pace : UInt64} {t : Instant} :
    clock.blockTime? block pace = some t ↔ clock.isLoaded = true ∧ clock.Reads block pace ∧
      clock.now.addSeconds? (clock.secondsTo block pace) = some t := by
  constructor
  · intro h
    have hloaded : clock.isLoaded = true := by
      by_contra hunread
      have hguard : guard clock.isLoaded = (none : Option Unit) := if_neg hunread
      unfold blockTime? at h
      rw [hguard] at h
      cases h
    exact ⟨hloaded, blockTime?_inv h⟩
  · rintro ⟨hloaded, hreads, ht⟩
    rw [blockTime?_eq_addSeconds? (of_decide_eq_true hloaded) hreads, ht]

end ChainClock

namespace Countdown

/-- The instant at which a queued proposal expires, as it is reckoned on words. -/
def checkedExpiry? (p : Proposal) (config : Config) : Option Instant := do
  let grace ← mul? config.expiryGraceDays 86400
  let eta ← p.eta
  eta.addDuration? grace

/-- Reckoned on words, the instant at which a queued proposal expires is the exact one. -/
lemma checkedExpiry?_eq (p : Proposal) (config : Config) :
    checkedExpiry? p config = expiry? p config := by
  have hgrace := computes_mul? config.expiryGraceDays 86400
  unfold checkedExpiry? expiry?
  cases hseconds : mul? config.expiryGraceDays 86400 with
  | some grace =>
    have hexact : grace.toInt = config.expiryGraceDays.toInt * 86400 := (hgrace grace).mp hseconds
    simp only [Option.bind_eq_bind, Option.bind_some, Instant.addDuration?_eq, hexact]
  | none =>
    -- the days make more seconds than a word holds, which lead out of the range of instants
    rw [hseconds] at hgrace
    have hout := ChainClock.fitsDuration_of_not_fitsWord hgrace.not_fitsWord
    cases p.eta with
    | none => rfl
    | some eta =>
      exact (Instant.addSeconds?_eq_none_iff.mpr
        (Instant.outOfReach_of_not_fitsDuration hout eta)).symm

end Countdown

/-! ## Magnitudes -/

namespace Magnitude

variable {w unit : Int64} {n k : Nat} {one : Magnitude} {many : Nat → Magnitude}

/-- The number of units in a value, rounded to the nearest, as it is computed on words. -/
def checkedRounded? (value unit : Int64) : Option Int64 := do
  let half ← div? unit 2
  let sum ← add? value half
  div? sum unit

/-- A count of units in a word, which is told as a single one up to one. -/
def checkedCounted (n : Int64) (one : Magnitude) (many : Nat → Magnitude) : Magnitude :=
  if n ≤ 1 then one else many n.toNatClampNeg

/-- The magnitude of a number of seconds, as it is computed on words. -/
def checkedOfSeconds? (seconds : Int64) : Option Magnitude := do
  let span ← abs? seconds
  if span < 45 then return fewSeconds
  if span < 90 then return minute
  let inMinutes ← checkedRounded? span 60
  if inMinutes < 45 then return checkedCounted inMinutes minute minutes
  if inMinutes < 90 then return hour
  let inHours ← checkedRounded? span 3600
  if inHours < 22 then return checkedCounted inHours hour hours
  if inHours < 36 then return day
  let inDays ← checkedRounded? span 86400
  if inDays < 26 then return checkedCounted inDays day days
  if inDays < 46 then return month
  let inMonths ← checkedRounded? span 2629746
  if inMonths < 11 then return checkedCounted inMonths month months
  if inMonths < 18 then return year
  let inYears ← checkedRounded? inMonths 12
  return checkedCounted inYears year years

/-- A value is rounded within words if they have room for half a unit more. -/
lemma exists_checkedRounded? (unit : Int64) (k : Nat) (hw : w.toInt = n) (hunit : unit.toInt = k)
    (hk : 0 < k) (hroom : FitsWord (n + k / 2 : Nat)) :
    ∃ r, checkedRounded? w unit = some r ∧ r.toInt = rounded n k := by
  have htwo : (2 : Int64).toInt = (2 : Nat) := rfl
  have hquotient : (n + k / 2) / k ≤ n + k / 2 := Nat.div_le_self _ _
  have hhalfInt := computes_div? (a := unit) (b := 2) (by decide)
  rw [hunit, htwo, ← Int.ofNat_tdiv] at hhalfInt
  obtain ⟨half, hhalf, hhalfInt⟩ := hhalfInt.exists (fitsWord_of_le hroom (by omega))
  have hsumInt := computes_add? w half
  rw [hw, hhalfInt, ← Int.natCast_add] at hsumInt
  obtain ⟨sum, hsum, hsumInt⟩ := hsumInt.exists hroom
  have hrInt := computes_div? (a := sum) (b := unit) (by omega)
  rw [hsumInt, hunit, ← Int.ofNat_tdiv] at hrInt
  obtain ⟨r, hr, hrInt⟩ := hrInt.exists (fitsWord_of_le hroom hquotient)
  refine ⟨r, ?_, hrInt⟩
  unfold checkedRounded?
  rw [hhalf]
  simp only [Option.bind_eq_bind, Option.bind_some, hsum, hr]

/-- A count in a word is told as the number that it stands for. -/
lemma checkedCounted_eq (hw : w.toInt = n) : checkedCounted w one many = counted n one many := by
  have hone : w ≤ 1 ↔ n ≤ 1 := by
    rw [Int64.le_iff_toInt_le, hw]
    exact Int.ofNat_le
  have hcount : w.toNatClampNeg = n := by
    rw [Int64.toNatClampNeg, hw, Int.toNat_natCast]
  unfold checkedCounted counted
  simp only [hone, hcount]

/-- The magnitude of seconds is computed within words if they have room for half a month more. -/
lemma checkedOfSeconds?_eq (hw : w.toInt.natAbs = n)
    (hroom : FitsWord (n + secondsPerMonth / 2 : Nat)) :
    checkedOfSeconds? w = some (ofSeconds n) := by
  have hmonth : secondsPerMonth = 2629746 := rfl
  have hyear : rounded n secondsPerMonth + 12 / 2 ≤ n + secondsPerMonth / 2 := by
    unfold rounded secondsPerMonth
    omega
  have hn := computes_abs? w
  rw [hw] at hn
  obtain ⟨span, hspan, hn⟩ := hn.exists (fitsWord_of_le hroom (by omega))
  obtain ⟨minutes, hminutes, hnminutes⟩ :=
    exists_checkedRounded? 60 60 hn rfl (by decide) (fitsWord_of_le hroom (by omega))
  obtain ⟨hours, hhours, hnhours⟩ :=
    exists_checkedRounded? 3600 3600 hn rfl (by decide) (fitsWord_of_le hroom (by omega))
  obtain ⟨days, hdays, hndays⟩ :=
    exists_checkedRounded? 86400 86400 hn rfl (by decide) (fitsWord_of_le hroom (by omega))
  obtain ⟨months, hmonths, hnmonths⟩ :=
    exists_checkedRounded? 2629746 secondsPerMonth hn rfl (by decide) hroom
  obtain ⟨years, hyears, hnyears⟩ :=
    exists_checkedRounded? 12 12 hnmonths rfl (by decide) (fitsWord_of_le hroom hyear)
  unfold checkedOfSeconds? ofSeconds
  simp only [Option.bind_eq_bind, Option.bind_some, hspan, hminutes, hhours, hdays, hmonths, hyears,
    checkedCounted_eq hnminutes, checkedCounted_eq hnhours, checkedCounted_eq hndays,
    checkedCounted_eq hnmonths, checkedCounted_eq hnyears, Int64.lt_iff_toInt_lt, hn, hnminutes,
    hnhours, hndays, hnmonths, Int64.reduceToInt, Nat.cast_lt_ofNat, Option.pure_def,
    apply_ite some]

/-- The ends of the words leave no room: one has no absolute value, the other cannot be rounded. -/
example : checkedOfSeconds? Int64.minValue = none ∧ checkedOfSeconds? Int64.maxValue = none := by
  decide

end Magnitude

/-! ## Boards -/

/-- The phrase for an instant, as it is computed on words. -/
def checkedHumanized? (instant now : Instant) : Option String := do
  let seconds ← ofInt? (instant.secondsSince now)
  let magnitude ← Magnitude.checkedOfSeconds? seconds
  return RelativeTime.text ⟨0 ≤ seconds, magnitude⟩

/-- The phrase for an instant is computed without an overflow. -/
lemma checkedHumanized?_eq (instant now : Instant) :
    checkedHumanized? instant now = some (humanized instant now) := by
  have hbound := instant.natAbs_secondsSince_le now
  have hroom : FitsWord (16544868105601 + Magnitude.secondsPerMonth / 2 : Nat) :=
    ⟨by decide, by decide⟩
  have hfits : FitsWord (instant.secondsSince now) := by
    rw [fitsWord_iff]
    omega
  obtain ⟨seconds, hseconds, hexact⟩ := (computes_ofInt? (instant.secondsSince now)).exists hfits
  have hmagnitude := Magnitude.checkedOfSeconds?_eq (congrArg Int.natAbs hexact)
    (fitsWord_of_le hroom (Nat.add_le_add_right hbound _))
  have hahead : 0 ≤ seconds ↔ 0 ≤ instant.secondsSince now := by
    rw [Int64.le_iff_toInt_le, hexact, Int64.toInt_zero]
  unfold checkedHumanized?
  rw [hseconds, Option.bind_eq_bind, Option.bind_some, hmagnitude, RelativeTime.humanized_eq]
  simp only [hahead]
  rfl

/-- The phrases that are computed on words, with others where that overflows. -/
def checkedPhrasing (overflow : TimePhrasing) : TimePhrasing := fun instant now =>
  (checkedHumanized? instant now).getD (overflow instant now)

/-- Whatever would be said on an overflow, it never is. -/
lemma checkedPhrasing_eq (overflow : TimePhrasing) : checkedPhrasing overflow = humanized := by
  funext instant now
  unfold checkedPhrasing
  rw [checkedHumanized?_eq, Option.getD_some]

namespace Board

/-- What is reckoned for a board on machine words is exact, and is what the rows show. -/
structure StaysInWords (board : Board) (config : Config) (present : Instant) : Prop where
  /-- The execution window of a motion begins its number of blocks in front of the end block, and no
  earlier than block zero. -/
  window : ∀ m ∈ board.motions,
    ((m.window (board.effectiveConfig config)).executionStartBlock.toNat : Int) =
      max 0 (m.endBlock.toNat - m.executionBlocks (board.effectiveConfig config))
  blockTime : ∀ block, (board.clock present).checkedBlockTime? block config.averageBlockSeconds =
    (board.clock present).blockTime? block config.averageBlockSeconds
  /-- A known time of a block is so many seconds away as the blocks up to it take. It is unknown
  only while the chain has not been read, for numbers that fit no word, and out of range. -/
  blockTime_exact : ∀ block t,
    (board.clock present).blockTime? block config.averageBlockSeconds = some t ↔
      0 < board.currentBlock ∧ (board.clock present).Reads block config.averageBlockSeconds ∧
        (board.clock present).now.addSeconds?
          ((board.clock present).secondsTo block config.averageBlockSeconds) = some t
  expiry : ∀ p ∈ board.proposals,
    Countdown.checkedExpiry? p config = Countdown.expiry? p config
  /-- No step on the way from an instant to its phrase overflows. -/
  humanized : ∀ instant, checkedHumanized? instant (board.clock present).now =
    some (humanized instant (board.clock present).now)
  /-- So what would be shown for an overflow is on no row. -/
  rows : ∀ overflow, board.rows config (checkedPhrasing overflow) present =
    board.rows config ProposalBoard.humanized present
  row : ∀ overflow id, board.row id config (checkedPhrasing overflow) present =
    board.row id config ProposalBoard.humanized present

/-- For every board and every configuration, valid or not, what is reckoned on machine words is
exact or an unknown time. -/
theorem staysInWords (board : Board) (config : Config) (present : Instant) :
    board.StaysInWords config present where
  window m _ := by
    rw [Motion.toNat_executionStartBlock]
    omega
  blockTime block := ChainClock.checkedBlockTime?_eq _ _ _
  blockTime_exact block t := by
    rw [ChainClock.blockTime?_eq_some_iff_reads]
    exact Iff.and decide_eq_true_iff Iff.rfl
  expiry p _ := Countdown.checkedExpiry?_eq p config
  humanized instant := checkedHumanized?_eq instant _
  rows overflow := by rw [checkedPhrasing_eq]
  row overflow id := by rw [checkedPhrasing_eq]

end Board

end ProposalBoard
