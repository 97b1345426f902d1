import ProposalBoard.Proofs.CountdownAhead
import ProposalBoard.TimeLine

/-!
# Time lines of motions

The time line of a motion goes from the time of its start block to that of its end block
(`spans_ofMotion`).

The resolution places a motion in its phases by comparing blocks, and the page of a proposal draws
its time line by comparing instants. Where the times of start and end block are known and blocks
take time, `caption_ofMotion` says what the caption comes down to in blocks. The main statement
`caption_tells_phase_iff` says that caption and phase agree at all blocks but two
(`AtBoundary`): the first one of the voting and the last one of the motion. There the comparisons
of instants are strict where those of blocks are not, and the motion is captioned as one that has
yet to start. Both cases occur (`caption_on_boundaries`).
-/

namespace ProposalBoard.TimeLine

variable {clock : ChainClock} {m : Motion} {config : Config} {start close : Option Instant}
  {now : Instant}

/-! ## What a time line tells -/

/-- A time line tells the start of a vote until that is past, and its end from then on. Its caption
tells whether the vote is open, over, or neither. -/
structure Spans (start close : Option Instant) (now : Instant) (line : TimeLine) : Prop where
  atStart : (¬∃ t ∈ start, t < now) → line.instant = start
  atEnd : (∃ t ∈ start, t < now) → line.instant = close
  ends_iff : line.caption = .ends ↔ (∃ t ∈ start, t < now) ∧ ∃ t ∈ close, now < t
  ended_iff : line.caption = .ended ↔ ∃ t ∈ close, t < now
  caption : line.caption = .starts ∨ line.caption = .ends ∨ line.caption = .ended

/-- The time line of a vote in a contract spans the vote. -/
lemma spans_between : Spans start close now (between start close now .ends) where
  atStart hstart := by
    rw [← Countdown.isPast_iff] at hstart
    exact if_neg hstart
  atEnd hstart := by
    rw [← Countdown.isPast_iff] at hstart
    exact if_pos hstart
  ends_iff := by
    rw [← Countdown.isPast_iff, ← Countdown.isAhead_iff, ← Bool.and_eq_true]
    simp only [between]
    split
    · next hopen => exact iff_of_true rfl hopen
    · next hopen =>
      refine iff_of_false ?_ hopen
      split <;> nofun
  ended_iff := by
    rw [← Countdown.isPast_iff]
    simp only [between]
    split
    · next hopen =>
      refine iff_of_false nofun fun hover => ?_
      rw [Countdown.isAhead_eq_false_of_isPast hover, Bool.and_false] at hopen
      cases hopen
    · split
      · next hover => exact iff_of_true rfl hover
      · next hover => exact iff_of_false nofun hover
  caption := by
    simp only [between]
    split
    · exact .inr (.inl rfl)
    · split
      · exact .inr (.inr rfl)
      · exact .inl rfl

/-- The time line of a motion spans the time from its start block to its end block. -/
lemma spans_ofMotion :
    Spans (clock.blockTime? m.startBlock config.averageBlockSeconds)
      (clock.blockTime? m.endBlock config.averageBlockSeconds) clock.now
      (ofMotion m clock config) :=
  spans_between

/-! ## Captions and phases -/

/-- A caption tells the phase of a motion. In the execution window a motion may be voted on or have
yet to start, since the window may reach back before the start block, but it is not over. -/
def Tells : Motion.Phase → Caption → Prop
  | .notStarted, caption => caption = .starts
  | .voting, caption => caption = .ends
  | .executionWindow, caption => caption = .starts ∨ caption = .ends
  | .ended, caption => caption = .ended

/-- The latest block is the one at which the voting on a motion begins, or the one at which the
motion ends. -/
def AtBoundary (clock : ChainClock) (m : Motion) (config : Config) : Prop :=
  ((m.window config).phase clock.block = .voting ∧ clock.block = m.startBlock) ∨
    clock.block = m.endBlock

/-- The caption of a motion in blocks. -/
lemma caption_ofMotion {opens closes : Instant}
    (hopens : clock.blockTime? m.startBlock config.averageBlockSeconds = some opens)
    (hcloses : clock.blockTime? m.endBlock config.averageBlockSeconds = some closes)
    (hseconds : 0 < config.averageBlockSeconds.toNat) :
    (ofMotion m clock config).caption =
      if m.startBlock.toNat < clock.block.toNat ∧ clock.block.toNat < m.endBlock.toNat then .ends
      else if m.endBlock.toNat < clock.block.toNat then .ended
      else .starts := by
  have hstarted : isPast (some opens) clock.now = true ↔
      m.startBlock.toNat < clock.block.toNat := by
    rw [← ChainClock.blockTime?_lt_now_iff hopens hseconds]
    simp [isPast]
  have hahead : isAhead (some closes) clock.now = true ↔
      clock.block.toNat < m.endBlock.toNat := by
    rw [← ChainClock.now_lt_blockTime?_iff hcloses hseconds]
    simp [isAhead]
  have hover : isPast (some closes) clock.now = true ↔
      m.endBlock.toNat < clock.block.toNat := by
    rw [← ChainClock.blockTime?_lt_now_iff hcloses hseconds]
    simp [isPast]
  simp only [ofMotion, between, hopens, hcloses]
  apply if_congr
  · rw [Bool.and_eq_true, hstarted, hahead]
  · rfl
  · exact if_congr hover rfl rfl

section

variable {opens closes : Instant}
  (hopens : clock.blockTime? m.startBlock config.averageBlockSeconds = some opens)
  (hcloses : clock.blockTime? m.endBlock config.averageBlockSeconds = some closes)
  (hseconds : 0 < config.averageBlockSeconds.toNat)

include hopens hcloses hseconds

/-- At a boundary the time of the start or of the end is now, and not before it. -/
lemma caption_of_atBoundary (hboundary : AtBoundary clock m config) :
    (ofMotion m clock config).caption = .starts := by
  rw [caption_ofMotion hopens hcloses hseconds]
  rcases hboundary with ⟨hvoting, hstart⟩ | hend
  · obtain ⟨hwindow, -⟩ := Motion.phase_eq_voting_iff.mp hvoting
    rw [hstart] at hwindow ⊢
    rw [if_neg (by omega), if_neg (by omega)]
  · rw [hend, if_neg (by omega), if_neg (by omega)]

/-- At all blocks but the boundaries, the caption tells the phase. -/
lemma tells_of_not_atBoundary (hinside : ¬AtBoundary clock m config) :
    Tells ((m.window config).phase clock.block) (ofMotion m clock config).caption := by
  rw [caption_ofMotion hopens hcloses hseconds]
  have hend : clock.block.toNat ≠ m.endBlock.toNat :=
    fun heq => hinside (.inr (UInt64.toNat_inj.mp heq))
  cases hphase : (m.window config).phase clock.block with
  | notStarted =>
    obtain ⟨hwindow, hstart⟩ := Motion.phase_eq_notStarted_iff.mp hphase
    rw [if_neg (by omega), if_neg (by omega)]
    rfl
  | voting =>
    obtain ⟨hwindow, hstart⟩ := Motion.phase_eq_voting_iff.mp hphase
    have hfirst : clock.block.toNat ≠ m.startBlock.toNat :=
      fun heq => hinside (.inl ⟨hphase, UInt64.toNat_inj.mp heq⟩)
    rw [if_pos (by omega)]
    rfl
  | executionWindow =>
    obtain ⟨-, hbefore⟩ := Motion.phase_eq_executionWindow_iff.mp hphase
    -- the window may have begun before the start block
    by_cases hstarted : m.startBlock.toNat < clock.block.toNat
    · rw [if_pos ⟨hstarted, hbefore⟩]
      exact .inr rfl
    · rw [if_neg (by omega), if_neg (by omega)]
      exact .inl rfl
  | ended =>
    have hover := Motion.phase_eq_ended_iff.mp hphase
    rw [if_neg (by omega), if_pos (by omega)]
    rfl

end

/-- The phases at the boundaries are not told by the caption of a motion that has yet to start. -/
lemma not_tells_starts_of_atBoundary (hboundary : AtBoundary clock m config) :
    ¬Tells ((m.window config).phase clock.block) .starts := by
  rcases hboundary with ⟨hvoting, -⟩ | hend
  · rw [hvoting]
    nofun
  · have hended : (m.window config).phase clock.block = .ended :=
      Motion.phase_eq_ended_iff.mpr (Nat.le_of_eq (congrArg UInt64.toNat hend.symm))
    rw [hended]
    nofun

/-- The caption of a motion for which the times of start and end block are known tells its phase at
all blocks but the two boundaries, the first block of the voting and the last one of the motion. At
those it says that the motion has yet to start. A poll makes no difference. -/
theorem caption_tells_phase_iff (clock : ChainClock) (poll : Option Poll) (m : Motion)
    (config : Config) (hseconds : 1 ≤ config.averageBlockSeconds.toNat)
    (hopens : (clock.blockTime? m.startBlock config.averageBlockSeconds).isSome = true)
    (hcloses : (clock.blockTime? m.endBlock config.averageBlockSeconds).isSome = true) :
    ∃ line, ofMetagov clock poll (some m) config = some line ∧
      (Tells ((m.window config).phase clock.block) line.caption ↔ ¬AtBoundary clock m config) ∧
      (AtBoundary clock m config → line.caption = .starts) := by
  obtain ⟨opens, hopens⟩ := Option.isSome_iff_exists.mp hopens
  obtain ⟨closes, hcloses⟩ := Option.isSome_iff_exists.mp hcloses
  refine ⟨ofMotion m clock config, rfl, ⟨?_, ?_⟩, ?_⟩
  · intro htells hboundary
    rw [caption_of_atBoundary hopens hcloses hseconds hboundary] at htells
    exact not_tells_starts_of_atBoundary hboundary htells
  · exact tells_of_not_atBoundary hopens hcloses hseconds
  · exact caption_of_atBoundary hopens hcloses hseconds

/-- A motion that is voted on for six hundred blocks, the last hundred of them its execution
window. -/
def plainMotion : Motion :=
  { Motion.blank 1 with startBlock := 700, endBlock := 1300, executionWindow := some 100 }

/-- In the midst of the voting the caption tells the phase. -/
theorem caption_tells_phase_iff_midway :
    1 ≤ ({} : Config).averageBlockSeconds.toNat ∧
      ((⟨1000, .epoch⟩ : ChainClock).blockTime? 700 12).isSome = true ∧
      ((⟨1000, .epoch⟩ : ChainClock).blockTime? 1300 12).isSome = true ∧
      ¬AtBoundary ⟨1000, .epoch⟩ plainMotion {} ∧
      ∃ line, ofMetagov ⟨1000, .epoch⟩ none (some plainMotion) {} = some line ∧
        Tells .voting line.caption := by
  have hinside : ¬AtBoundary ⟨1000, .epoch⟩ plainMotion {} := by
    unfold AtBoundary
    decide
  obtain ⟨line, hline, htells, -⟩ :=
    caption_tells_phase_iff ⟨1000, .epoch⟩ none plainMotion {} (by decide) (by decide) (by decide)
  exact ⟨by decide, by decide, by decide, hinside, line, hline, htells.mpr hinside⟩

/-- At the first block of the voting and at the last block of the motion, the time line says that
the motion has yet to start, in the second case with the instant of the end. -/
theorem caption_on_boundaries :
    (plainMotion.window {}).phase 700 = .voting ∧
      ofMetagov ⟨700, .epoch⟩ none (some plainMotion) {} = some ⟨.starts, some .epoch⟩ ∧
      (plainMotion.window {}).phase 1300 = .ended ∧
      ofMetagov ⟨1300, .epoch⟩ none (some plainMotion) {} = some ⟨.starts, some .epoch⟩ ∧
      (⟨1300, .epoch⟩ : ChainClock).blockTime? 1300 12 = some .epoch := by
  decide

end ProposalBoard.TimeLine
