import ProposalBoard.Proofs.BlockTime

/-!
# Blocks placed in time

The time of a block is reckoned in steps that may fail: three numbers, their difference and their
product have to fit words, the product a duration, and the sum the range of instants. For difference
and product the checks decide nothing, since what no word or duration holds leads out of the range
of instants anyway (`ChainClock.blockTime?_eq_addSeconds?`). So a known time is an exact sum
(`ChainClock.blockTime?_eq_some_iff`), from which the main statement
`ChainClock.blocks_exact_and_in_order` follows: outside of leap seconds the times of blocks are
exact, unknown only for a named cause, ordered as the blocks are, without gaps, and the same seen
from any block with a known time.
-/

namespace ProposalBoard

namespace Instant

variable {t u : Instant} {seconds : Int} {nanos : Nat}

/-- An instant is made of its own parts and of no others. -/
lemma ofParts?_eq_some_iff :
    ofParts? seconds nanos = some t ↔ t.seconds = seconds ∧ t.nanos = nanos := by
  constructor
  · exact parts_of_ofParts?
  · rintro ⟨rfl, rfl⟩
    exact dif_pos ⟨t.seconds_range, t.nanos_lt, t.leap_at_59⟩

/-- Outside of leap seconds, the instant some seconds later has them added and nothing else
changed. -/
lemma addSeconds?_eq_some_iff (ht : t.isLeap = false) :
    t.addSeconds? seconds = some u ↔ u.seconds = t.seconds + seconds ∧ u.nanos = t.nanos := by
  unfold addSeconds?
  rw [ht, if_neg (by simp), if_neg (by simp)]
  exact ofParts?_eq_some_iff

/-- Outside of leap seconds, seconds lead out of range if their sum does. -/
lemma outOfReach_iff (ht : t.isLeap = false) :
    t.OutOfReach seconds ↔
      t.seconds + seconds < firstSecond ∨ lastSecond < t.seconds + seconds := by
  unfold OutOfReach arrival
  rw [ht, if_neg (by simp)]

/-- Seconds that can be counted in milliseconds by a signed 64-bit word. -/
def FitsDuration (seconds : Int) : Prop :=
  -9223372036854775 ≤ seconds ∧ seconds ≤ 9223372036854775

/-- The years of the calendar are shorter than the longest duration, so that no instant is that far
from another. -/
lemma outOfReach_of_not_fitsDuration (h : ¬FitsDuration seconds) (t : Instant) :
    t.OutOfReach seconds := by
  have hrange := t.seconds_range
  unfold FitsDuration at h
  unfold OutOfReach arrival firstSecond lastSecond
  split <;> omega

end Instant

namespace ChainClock

open Instant (FitsDuration firstSecond lastSecond)

variable {clock : ChainClock} {block other pace : UInt64} {t u : Instant} {n k : Int}

/-- A number that fits a word is its own word. -/
lemma signedWord?_of_fitsWord (h : FitsWord n) : signedWord? n = some n :=
  signedWord?_eq_some_iff.mpr ⟨h, rfl⟩

/-- Seconds that do not fit a word do not fit a duration either. -/
lemma fitsDuration_of_not_fitsWord (h : ¬FitsWord n) : ¬FitsDuration n := by
  rw [fitsWord_iff] at h
  unfold FitsDuration
  omega

/-- Numbers of blocks that fit words are no further apart than a word can hold. -/
lemma Reads.fitsWord_sub (h : clock.Reads block pace) :
    FitsWord (block.toNat - clock.block.toNat) := by
  obtain ⟨hblock, hlatest, -⟩ := h
  rw [fitsWord_iff] at hblock hlatest ⊢
  omega

/-- What is reckoned from numbers that fit words is the instant so many seconds later. -/
lemma blockTime?_eq_addSeconds? (hread : 0 < clock.block) (h : clock.Reads block pace) :
    clock.blockTime? block pace = clock.now.addSeconds? (clock.secondsTo block pace) := by
  have hloaded : guard clock.isLoaded = some () := if_pos (decide_eq_true hread)
  unfold blockTime?
  rw [hloaded, signedWord?_of_fitsWord h.block, signedWord?_of_fitsWord h.latest,
    signedWord?_of_fitsWord h.pace]
  simp only [Option.bind_eq_bind, Option.bind_some, signedWord?_of_fitsWord h.fitsWord_sub]
  by_cases hfits : FitsWord (clock.secondsTo block pace)
  · rw [← secondsTo, signedWord?_of_fitsWord hfits, Option.bind_some]
  · -- the seconds do not fit a word, but then they lead out of the range of instants
    have hnone : signedWord? (clock.secondsTo block pace) = none := if_neg hfits
    rw [← secondsTo, hnone, Option.bind_none, Instant.addSeconds?_eq_none_iff.mpr]
    exact Instant.outOfReach_of_not_fitsDuration (fitsDuration_of_not_fitsWord hfits) _

/-- Outside of leap seconds, the known time of a block is now moved by the seconds to the block. -/
lemma blockTime?_eq_some_iff (hread : 0 < clock.block) (hnow : clock.now.isLeap = false) :
    clock.blockTime? block pace = some t ↔ clock.Reads block pace ∧
      t.seconds = clock.now.seconds + clock.secondsTo block pace ∧ t.nanos = clock.now.nanos := by
  constructor
  · intro h
    obtain ⟨hreads, ht⟩ := blockTime?_inv h
    exact ⟨hreads, (Instant.addSeconds?_eq_some_iff hnow).mp ht⟩
  · rintro ⟨hreads, hparts⟩
    rw [blockTime?_eq_addSeconds? hread hreads]
    exact (Instant.addSeconds?_eq_some_iff hnow).mpr hparts

/-- What keeps a block from being placed in time by a chain that has been read. -/
inductive Unplaceable (clock : ChainClock) (block pace : UInt64) : Prop where
  | block : ¬FitsWord block.toNat → Unplaceable clock block pace
  | latest : ¬FitsWord clock.block.toNat → Unplaceable clock block pace
  | pace : ¬FitsWord pace.toNat → Unplaceable clock block pace
  | seconds : ¬FitsWord (clock.secondsTo block pace) → Unplaceable clock block pace
  | duration : ¬FitsDuration (clock.secondsTo block pace) → Unplaceable clock block pace
  | range :
    clock.now.seconds + clock.secondsTo block pace < firstSecond ∨
      lastSecond < clock.now.seconds + clock.secondsTo block pace →
    Unplaceable clock block pace

/-- A block cannot be placed in time exactly if one of its numbers does not fit a word or the
seconds to it lead out of range. -/
lemma unplaceable_iff (hnow : clock.now.isLeap = false) :
    clock.Unplaceable block pace ↔
      ¬clock.Reads block pace ∨ clock.now.OutOfReach (clock.secondsTo block pace) := by
  constructor
  · intro h
    cases h with
    | block h => exact .inl fun hreads => h hreads.block
    | latest h => exact .inl fun hreads => h hreads.latest
    | pace h => exact .inl fun hreads => h hreads.pace
    | seconds h =>
      exact .inr (Instant.outOfReach_of_not_fitsDuration (fitsDuration_of_not_fitsWord h) _)
    | duration h => exact .inr (Instant.outOfReach_of_not_fitsDuration h _)
    | range h => exact .inr ((Instant.outOfReach_iff hnow).mpr h)
  · rintro (h | h)
    · by_cases hblock : FitsWord block.toNat
      · by_cases hlatest : FitsWord clock.block.toNat
        · exact .pace fun hpace => h ⟨hblock, hlatest, hpace⟩
        · exact .latest hlatest
      · exact .block hblock
    · exact .range ((Instant.outOfReach_iff hnow).mp h)

/-- Once the chain has been read, and outside of leap seconds, the time of a block is unknown
exactly if one of the named causes holds. -/
lemma blockTime?_eq_none_iff (hread : 0 < clock.block) (hnow : clock.now.isLeap = false) :
    clock.blockTime? block pace = none ↔ clock.Unplaceable block pace := by
  rw [unplaceable_iff hnow]
  by_cases hreads : clock.Reads block pace
  · rw [blockTime?_eq_addSeconds? hread hreads, Instant.addSeconds?_eq_none_iff]
    simp only [hreads, not_true_eq_false, false_or]
  · refine iff_of_true (Option.eq_none_iff_forall_ne_some.mpr fun t ht => ?_) (.inl hreads)
    exact hreads (blockTime?_inv ht).1

/-! ## Order -/

/-- Where blocks take time, fewer seconds lead to an earlier block. -/
lemma secondsTo_lt_iff (clock : ChainClock) (hpace : 0 < pace) :
    clock.secondsTo block pace < clock.secondsTo other pace ↔ block < other := by
  have hpos : (0 : Int) < pace.toNat := Int.natCast_pos.mpr (UInt64.lt_iff_toNat_lt.mp hpace)
  unfold secondsTo
  rw [Int.mul_lt_mul_right hpos, UInt64.lt_iff_toNat_lt]
  omega

/-- There are no fewer seconds to a later block. -/
lemma secondsTo_mono (clock : ChainClock) (pace : UInt64) (h : block ≤ other) :
    clock.secondsTo block pace ≤ clock.secondsTo other pace := by
  have hle := UInt64.le_iff_toNat_le.mp h
  unfold secondsTo
  exact Int.mul_le_mul_of_nonneg_right (by omega) (Int.natCast_nonneg _)

/-- The seconds to a block add up over any block between. -/
lemma secondsTo_add (clock : ChainClock) (block other pace : UInt64) (n : Instant) :
    clock.secondsTo other pace + (⟨other, n⟩ : ChainClock).secondsTo block pace =
      clock.secondsTo block pace := by
  show (_ - _ : Int) * _ + (block.toNat - other.toNat) * _ = (_ - _) * _
  rw [← Int.add_mul]
  congr 1
  omega

/-- The latest block is the one that comes now. -/
lemma eq_iff_blockTime?_eq_now (hpace : 0 < pace) (ht : clock.blockTime? block pace = some t) :
    block = clock.block ↔ t = clock.now := by
  constructor
  · rintro rfl
    exact blockTime?_self ht
  · rintro rfl
    have hpos := UInt64.lt_iff_toNat_lt.mp hpace
    have hpast := mt (blockTime?_lt_now_iff ht hpos).mpr (Instant.lt_irrefl clock.now)
    have hahead := mt (now_lt_blockTime?_iff ht hpos).mpr (Instant.lt_irrefl clock.now)
    apply UInt64.toNat_inj.mp
    omega

section
variable (hread : 0 < clock.block) (hnow : clock.now.isLeap = false)
include hread hnow

/-- Where blocks take time, blocks with known times come in the order of these. -/
lemma lt_iff_blockTime?_lt (hpace : 0 < pace) (ht : clock.blockTime? block pace = some t)
    (hu : clock.blockTime? other pace = some u) : block < other ↔ t < u := by
  obtain ⟨-, htseconds, htnanos⟩ := (blockTime?_eq_some_iff hread hnow).mp ht
  obtain ⟨-, huseconds, hunanos⟩ := (blockTime?_eq_some_iff hread hnow).mp hu
  rw [← secondsTo_lt_iff clock hpace, Instant.lt_def]
  omega

/-- A block between two with known times has a known time. -/
lemma isSome_blockTime?_of_between {first last : UInt64} (hfirst : first ≤ block)
    (hlast : block ≤ last) (ht : clock.blockTime? first pace = some t)
    (hu : clock.blockTime? last pace = some u) : (clock.blockTime? block pace).isSome = true := by
  obtain ⟨-, htseconds, -⟩ := (blockTime?_eq_some_iff hread hnow).mp ht
  obtain ⟨⟨hlastfits, hlatest, hpace⟩, huseconds, -⟩ := (blockTime?_eq_some_iff hread hnow).mp hu
  have hfits : FitsWord block.toNat :=
    fitsWord_of_le hlastfits (UInt64.le_iff_toNat_le.mp hlast)
  have hearliest := secondsTo_mono clock pace hfirst
  have hmost := secondsTo_mono clock pace hlast
  have htrange := t.seconds_range
  have hurange := u.seconds_range
  rw [blockTime?_eq_addSeconds? hread ⟨hfits, hlatest, hpace⟩, Option.isSome_iff_ne_none, ne_eq,
    Instant.addSeconds?_eq_none_iff, Instant.outOfReach_iff hnow]
  unfold firstSecond lastSecond
  omega

/-- From a block with a known time all other blocks with known times are seen at these. -/
lemma blockTime?_reanchored {n : Instant} (hother : 0 < other)
    (hn : clock.blockTime? other pace = some n) (ht : clock.blockTime? block pace = some t) :
    (⟨other, n⟩ : ChainClock).blockTime? block pace = some t := by
  obtain ⟨hreads, hnseconds, hnnanos⟩ := (blockTime?_eq_some_iff hread hnow).mp hn
  obtain ⟨hreads', htseconds, htnanos⟩ := (blockTime?_eq_some_iff hread hnow).mp ht
  have hleap : n.isLeap = false := by
    unfold Instant.isLeap at hnow ⊢
    rw [hnnanos, hnow]
  have hsum := clock.secondsTo_add block other pace n
  refine (blockTime?_eq_some_iff hother hleap).mpr
    ⟨⟨hreads'.block, hreads.block, hreads.pace⟩, ?_, htnanos.trans hnnanos.symm⟩
  show t.seconds = n.seconds + _
  omega

end

/-- Blocks are placed in time exactly and in their order. -/
structure PlacesBlocks (clock : ChainClock) (pace : UInt64) : Prop where
  /-- A known time is now moved by the pace for each block up to it. -/
  exact : ∀ block t, clock.blockTime? block pace = some t →
    t.seconds = clock.now.seconds + (block.toNat - clock.block.toNat) * pace.toNat ∧
      t.nanos = clock.now.nanos
  unknown_iff : ∀ block, clock.blockTime? block pace = none ↔ clock.Unplaceable block pace
  lt_iff : 0 < pace → ∀ block other t u, clock.blockTime? block pace = some t →
    clock.blockTime? other pace = some u → (block < other ↔ t < u)
  /-- What comes before, with and after the latest block is past, now and ahead. -/
  latest : 0 < pace → ∀ block t, clock.blockTime? block pace = some t →
    (block < clock.block ↔ t < clock.now) ∧ (block = clock.block ↔ t = clock.now) ∧
      (clock.block < block ↔ clock.now < t)
  /-- No block between two with known times is without one. -/
  between : ∀ first block last, first ≤ block → block ≤ last →
    (clock.blockTime? first pace).isSome = true → (clock.blockTime? last pace).isSome = true →
      (clock.blockTime? block pace).isSome = true
  /-- The chain as it is seen from another block with a known time. -/
  reanchored : ∀ other n, 0 < other → clock.blockTime? other pace = some n →
    ∀ block t, clock.blockTime? block pace = some t →
      (⟨other, n⟩ : ChainClock).blockTime? block pace = some t

/-- When the chain has been read outside of a leap second, its blocks are placed in time exactly
and in their order, whatever the average time of a block is. -/
theorem blocks_exact_and_in_order (clock : ChainClock) (pace : UInt64) (hread : 0 < clock.block)
    (hnow : clock.now.isLeap = false) : clock.PlacesBlocks pace where
  exact _ _ h := ((blockTime?_eq_some_iff hread hnow).mp h).2
  unknown_iff _ := blockTime?_eq_none_iff hread hnow
  lt_iff hpace _ _ _ _ ht hu := lt_iff_blockTime?_lt hread hnow hpace ht hu
  latest hpace block t ht := by
    have hpos := UInt64.lt_iff_toNat_lt.mp hpace
    refine ⟨?_, eq_iff_blockTime?_eq_now hpace ht, ?_⟩
    · rw [UInt64.lt_iff_toNat_lt, blockTime?_lt_now_iff ht hpos]
    · rw [UInt64.lt_iff_toNat_lt, now_lt_blockTime?_iff ht hpos]
  between _ _ _ hfirst hlast ht hu := by
    obtain ⟨t, ht⟩ := Option.isSome_iff_exists.mp ht
    obtain ⟨u, hu⟩ := Option.isSome_iff_exists.mp hu
    exact isSome_blockTime?_of_between hread hnow hfirst hlast ht hu
  reanchored _ _ hother hn _ _ ht := blockTime?_reanchored hread hnow hother hn ht

/-- Three hundred blocks of twelve seconds are an hour, seen from either end. The last of all block
numbers has no time, as it does not fit a word. -/
theorem blocks_exact_and_in_order_hour :
    0 < (⟨1000, .epoch⟩ : ChainClock).block ∧ Instant.epoch.isLeap = false ∧
      (⟨1000, .epoch⟩ : ChainClock).PlacesBlocks 12 ∧
      (⟨1000, .epoch⟩ : ChainClock).Unplaceable 18446744073709551615 12 ∧
      ∃ n t : Instant, n.seconds = 3600 ∧ t.seconds = -3600 ∧ t < n ∧
        (⟨1000, .epoch⟩ : ChainClock).blockTime? 1300 12 = some n ∧
        (⟨1000, .epoch⟩ : ChainClock).blockTime? 700 12 = some t ∧
        (⟨1300, n⟩ : ChainClock).blockTime? 700 12 = some t := by
  have hplaces := blocks_exact_and_in_order ⟨1000, .epoch⟩ 12 (by decide) (by decide)
  have hn : (⟨1000, .epoch⟩ : ChainClock).blockTime? 1300 12 =
      some ⟨3600, 0, by decide, by decide, by decide⟩ := by decide
  have ht : (⟨1000, .epoch⟩ : ChainClock).blockTime? 700 12 =
      some ⟨-3600, 0, by decide, by decide, by decide⟩ := by decide
  refine ⟨by decide, by decide, hplaces, (hplaces.unknown_iff _).mp (by decide), _, _, rfl, rfl, ?_,
    hn, ht, hplaces.reanchored 1300 _ (by decide) hn 700 _ ht⟩
  exact (hplaces.lt_iff (by decide) 700 1300 _ _ ht hn).mp (by decide)

end ChainClock

end ProposalBoard
