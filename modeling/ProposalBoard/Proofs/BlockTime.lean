import Mathlib.Tactic.Lemma
import ProposalBoard.Time.ChainClock

/-!
# Blocks in time

The order of instants, and the instants at which blocks are estimated to come: where blocks take
time, the known time of a block is before or after now exactly if the block comes before or after
the latest one (`ChainClock.blockTime?_lt_now_iff`, `ChainClock.now_lt_blockTime?_iff`).
-/

namespace ProposalBoard

namespace Instant

variable {t u v : Instant}

/-- No instant is before itself. -/
lemma lt_irrefl (t : Instant) : ¬t < t := by
  rw [lt_def]
  omega

/-- An instant before another is not after it. -/
lemma lt_asymm (h : t < u) : ¬u < t := by
  rw [lt_def] at *
  omega

/-- Two instants of which neither is before the other are the same. -/
lemma eq_of_not_lt (htu : ¬t < u) (hut : ¬u < t) : t = u := by
  rw [lt_def] at htu hut
  apply Instant.ext <;> omega

/-- Of two instants in order, the second is not before the first. -/
lemma not_lt_of_le (h : t ≤ u) : ¬u < t := by
  rw [le_def] at h
  rw [lt_def]
  omega

/-- Of two instants, the first is no later if the second is not before it. -/
lemma le_of_not_lt (h : ¬u < t) : t ≤ u := by
  rw [lt_def] at h
  rw [le_def]
  omega

/-- Instants no later than one another are so along a chain. -/
lemma le_trans (htu : t ≤ u) (huv : u ≤ v) : t ≤ v := by
  rw [le_def] at *
  omega

/-- An instant no later than another is before all that comes after the other. -/
lemma lt_of_le_of_lt (htu : t ≤ u) (huv : u < v) : t < v := by
  rw [le_def] at htu
  rw [lt_def] at *
  omega

/-- An instant has the parts that it is made of. -/
lemma parts_of_ofParts? {seconds : Int} {nanos : Nat} (h : ofParts? seconds nanos = some t) :
    t.seconds = seconds ∧ t.nanos = nanos := by
  unfold ofParts? at h
  split at h
  · cases h
    exact ⟨rfl, rfl⟩
  · cases h

/-- An instant that comes some seconds later is later, also if it is seen from a leap second. -/
lemma lt_of_addSeconds? {seconds : Int} (h : t.addSeconds? seconds = some u)
    (hseconds : 0 < seconds) : t < u := by
  have hparts : u.seconds = t.seconds + seconds := by
    unfold addSeconds? at h
    split at h
    · omega
    · split at h
      · exact (parts_of_ofParts? h).1
      · exact (parts_of_ofParts? h).1
  rw [lt_def]
  omega

/-- Counting back from a leap second leaves it for an earlier second or for the same one. -/
lemma addSeconds?_lt {seconds : Int} (h : t.addSeconds? seconds = some u)
    (hseconds : seconds < 0) : u < t := by
  rw [lt_def]
  unfold addSeconds? at h
  split at h
  · next hleap =>
    obtain ⟨hu, hnanos⟩ := parts_of_ofParts? h
    have hlong : 1000000000 ≤ t.nanos := of_decide_eq_true hleap.1
    omega
  · split at h
    · omega
    · obtain ⟨hu, hnanos⟩ := parts_of_ofParts? h
      omega

/-- The instant zero seconds later is the instant itself, in leap seconds too. -/
lemma addSeconds?_zero (h : t.addSeconds? 0 = some u) : u = t := by
  unfold addSeconds? at h
  rw [if_neg (by omega), if_neg (by omega)] at h
  obtain ⟨hu, hnanos⟩ := parts_of_ofParts? h
  apply Instant.ext
  · rw [hu, Int.add_zero]
  · exact hnanos

/-- The second in which one arrives from an instant by a number of seconds. Counting back from a
leap second, the leap second itself is the first one. -/
def arrival (t : Instant) (seconds : Int) : Int :=
  if t.isLeap = true ∧ seconds < 0 then t.seconds + 1 + seconds else t.seconds + seconds

/-- Seconds lead out of the range of instants. -/
def OutOfReach (t : Instant) (seconds : Int) : Prop :=
  t.arrival seconds < firstSecond ∨ lastSecond < t.arrival seconds

/-- From nanoseconds that a second may have, no instant is made exactly if the second is out of
range. -/
lemma ofParts?_eq_none_iff {seconds : Int} {nanos : Nat} (hnanos : nanos < 2000000000)
    (hleap : 1000000000 ≤ nanos → seconds % 60 = 59) :
    ofParts? seconds nanos = none ↔ seconds < firstSecond ∨ lastSecond < seconds := by
  unfold ofParts?
  split
  · next h =>
    refine iff_of_false nofun ?_
    omega
  · next h =>
    refine iff_of_true rfl ?_
    have hrange : ¬(firstSecond ≤ seconds ∧ seconds ≤ lastSecond) :=
      fun hrange => h ⟨hrange, hnanos, hleap⟩
    omega

/-- There is an instant some seconds later unless they lead out of range. -/
lemma addSeconds?_eq_none_iff {seconds : Int} :
    t.addSeconds? seconds = none ↔ t.OutOfReach seconds := by
  have hlt := t.nanos_lt
  unfold addSeconds? OutOfReach arrival
  split
  · exact ofParts?_eq_none_iff (by omega) (by omega)
  · next hback =>
    split
    · exact ofParts?_eq_none_iff (by omega) (by omega)
    · next hahead =>
      apply ofParts?_eq_none_iff hlt
      intro hlong
      -- in a leap second only the same instant is left
      have hleap : t.isLeap = true := decide_eq_true hlong
      have hseconds : seconds = 0 := by
        simp only [hleap, true_and] at hback hahead
        omega
      rw [hseconds, Int.add_zero]
      exact t.leap_at_59 hlong

end Instant

namespace ChainClock

variable {clock : ChainClock} {block secondsPerBlock : UInt64} {t : Instant}

/-- A number fits a signed 64-bit word. -/
def FitsWord (n : Int) : Prop :=
  Int64.minValue.toInt ≤ n ∧ n ≤ Int64.maxValue.toInt

/-- The bounds of a signed 64-bit word in figures. -/
lemma fitsWord_iff {n : Int} :
    FitsWord n ↔ -9223372036854775808 ≤ n ∧ n ≤ 9223372036854775807 :=
  Iff.rfl

/-- What is not negative and below a number that fits, fits. -/
lemma fitsWord_of_le {i k : Nat} (hfits : FitsWord k) (h : i ≤ k) : FitsWord i := by
  rw [fitsWord_iff] at hfits ⊢
  omega

/-- A number that fits is its own word, and no other has one. -/
lemma signedWord?_eq_some_iff {n k : Int} : signedWord? n = some k ↔ FitsWord n ∧ k = n := by
  unfold signedWord?
  split
  · next h =>
    rw [Option.some_inj]
    exact ⟨fun heq => ⟨h, heq.symm⟩, fun heq => heq.2.symm⟩
  · next h => exact ⟨nofun, fun heq => absurd heq.1 h⟩

/-- The numbers that the time of a block is reckoned from fit words. -/
structure Reads (clock : ChainClock) (block secondsPerBlock : UInt64) : Prop where
  block : FitsWord block.toNat
  latest : FitsWord clock.block.toNat
  pace : FitsWord secondsPerBlock.toNat

/-- The seconds from the latest block to another one. -/
def secondsTo (clock : ChainClock) (block secondsPerBlock : UInt64) : Int :=
  (block.toNat - clock.block.toNat) * secondsPerBlock.toNat

/-- A known time is reckoned from numbers that fit words, and is as many seconds away as the blocks
up to it take. -/
lemma blockTime?_inv (h : clock.blockTime? block secondsPerBlock = some t) :
    clock.Reads block secondsPerBlock ∧
      clock.now.addSeconds? (clock.secondsTo block secondsPerBlock) = some t := by
  unfold blockTime? at h
  obtain ⟨_, _, h⟩ := Option.bind_eq_some_iff.mp h
  obtain ⟨_, htarget, h⟩ := Option.bind_eq_some_iff.mp h
  obtain ⟨_, hcurrent, h⟩ := Option.bind_eq_some_iff.mp h
  obtain ⟨_, hblocks, h⟩ := Option.bind_eq_some_iff.mp h
  obtain ⟨_, heach, h⟩ := Option.bind_eq_some_iff.mp h
  obtain ⟨_, hseconds, ht⟩ := Option.bind_eq_some_iff.mp h
  obtain ⟨hblock, rfl⟩ := signedWord?_eq_some_iff.mp htarget
  obtain ⟨hlatest, rfl⟩ := signedWord?_eq_some_iff.mp hcurrent
  obtain ⟨-, rfl⟩ := signedWord?_eq_some_iff.mp hblocks
  obtain ⟨hpace, rfl⟩ := signedWord?_eq_some_iff.mp heach
  obtain ⟨-, rfl⟩ := signedWord?_eq_some_iff.mp hseconds
  exact ⟨⟨hblock, hlatest, hpace⟩, ht⟩

/-- Where blocks take time, the time of a block to come is after now. -/
lemma now_lt_blockTime? (h : clock.blockTime? block secondsPerBlock = some t)
    (hseconds : 0 < secondsPerBlock.toNat) (hblock : clock.block.toNat < block.toNat) :
    clock.now < t := by
  apply Instant.lt_of_addSeconds? (blockTime?_inv h).2
  apply Int.mul_pos <;> omega

/-- Where blocks take time, the time of a block that has passed is before now. -/
lemma blockTime?_lt_now (h : clock.blockTime? block secondsPerBlock = some t)
    (hseconds : 0 < secondsPerBlock.toNat) (hblock : block.toNat < clock.block.toNat) :
    t < clock.now := by
  apply Instant.addSeconds?_lt (blockTime?_inv h).2
  apply Int.mul_neg_of_neg_of_pos <;> omega

/-- The time of the latest block is now. -/
lemma blockTime?_self (h : clock.blockTime? clock.block secondsPerBlock = some t) :
    t = clock.now := by
  have hzero := (blockTime?_inv h).2
  rw [secondsTo, Int.sub_self, Int.zero_mul] at hzero
  exact Instant.addSeconds?_zero hzero

/-- Where blocks take time, what is past by the clock is past by the blocks. -/
lemma blockTime?_lt_now_iff (h : clock.blockTime? block secondsPerBlock = some t)
    (hseconds : 0 < secondsPerBlock.toNat) :
    t < clock.now ↔ block.toNat < clock.block.toNat := by
  rcases Nat.lt_trichotomy block.toNat clock.block.toNat with hlt | heq | hgt
  · exact iff_of_true (blockTime?_lt_now h hseconds hlt) hlt
  · obtain rfl := UInt64.toNat_inj.mp heq
    rw [blockTime?_self h]
    exact iff_of_false (Instant.lt_irrefl _) (Nat.lt_irrefl _)
  · exact iff_of_false (Instant.lt_asymm (now_lt_blockTime? h hseconds hgt)) (Nat.lt_asymm hgt)

/-- Where blocks take time, what is ahead by the clock is ahead by the blocks. -/
lemma now_lt_blockTime?_iff (h : clock.blockTime? block secondsPerBlock = some t)
    (hseconds : 0 < secondsPerBlock.toNat) :
    clock.now < t ↔ clock.block.toNat < block.toNat := by
  rcases Nat.lt_trichotomy clock.block.toNat block.toNat with hlt | heq | hgt
  · exact iff_of_true (now_lt_blockTime? h hseconds hlt) hlt
  · obtain rfl := UInt64.toNat_inj.mp heq
    rw [blockTime?_self h]
    exact iff_of_false (Instant.lt_irrefl _) (Nat.lt_irrefl _)
  · exact iff_of_false (Instant.lt_asymm (blockTime?_lt_now h hseconds hgt)) (Nat.lt_asymm hgt)

end ChainClock

end ProposalBoard
