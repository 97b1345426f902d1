import ProposalBoard.Proofs.Defaults
import ProposalBoard.Proofs.StatusCountdown

/-!
# Motions before their start block

A motion whose start block is still to come should be shown as one that has not started. The phases
are told from the end of the motion, though: the later boundaries are looked at first, and an
execution window that is longer than the vote has begun before the vote has. The main statement
`beside_before_start` says that this is the only way for a motion to be past its first phase before
its start block, and what is counted down to then. The case does occur (`beside_longWindow`): a
motion that nobody can vote on yet is said to be ready to execute, or its end is announced in place
of its start.
-/

namespace ProposalBoard

/-- The chain has been read, and the start block of the motion is still to come. -/
structure Motion.IsAwaited (m : Motion) (block : UInt64) : Prop where
  read : 1 ≤ block.toNat
  before : block.toNat < m.startBlock.toNat
  ordered : m.startBlock.toNat ≤ m.endBlock.toNat

/-- The execution window of the motion has begun at the block. -/
def Motion.WindowHasBegun (m : Motion) (config : Config) (block : UInt64) : Prop :=
  m.endBlock.toNat ≤ block.toNat + m.executionBlocks config

namespace Motion

variable {m : Motion} {config : Config} {block : UInt64}

/-- A motion whose execution window has begun before its start block has a window that is longer
than the vote. -/
lemma WindowHasBegun.longer (h : m.WindowHasBegun config block) (hawaited : m.IsAwaited block) :
    m.endBlock.toNat - m.startBlock.toNat < m.executionBlocks config := by
  have hbefore := hawaited.before
  have hordered := hawaited.ordered
  unfold WindowHasBegun at h
  omega

/-- Before its start block, a motion whose execution window has not begun has not started. -/
lemma phase_of_isAwaited (hawaited : m.IsAwaited block) (h : ¬m.WindowHasBegun config block) :
    (m.window config).phase block = .notStarted := by
  rw [phase_eq_notStarted_iff]
  exact ⟨Nat.lt_of_not_le h, hawaited.before⟩

/-- Before its start block, a motion whose execution window has begun is in that window. -/
lemma phase_of_windowHasBegun (hawaited : m.IsAwaited block)
    (h : m.WindowHasBegun config block) : (m.window config).phase block = .executionWindow := by
  rw [phase_eq_executionWindow_iff]
  exact ⟨h, Nat.lt_of_lt_of_le hawaited.before hawaited.ordered⟩

/-- Before its start block a motion has not started unless its execution window has begun. -/
lemma phase_eq_notStarted_iff_of_isAwaited (hawaited : m.IsAwaited block) :
    (m.window config).phase block = .notStarted ↔ ¬m.WindowHasBegun config block := by
  constructor
  · intro hphase h
    rw [phase_of_windowHasBegun hawaited h] at hphase
    cases hphase
  · exact phase_of_isAwaited hawaited

end Motion

namespace Countdown

variable {p : Proposal} {clock : ChainClock} {poll : Option Poll} {m : Motion} {config : Config}

/-- What is counted down to before the start block of a motion: its start, or if its execution
window has begun, its end, and with a quorum the end of the primary vote. -/
structure FitsStart (p : Proposal) (m : Motion) (clock : ChainClock) (config : Config)
    (countdown : Option Countdown) : Prop where
  notBegun : ¬m.WindowHasBegun config clock.block →
    Announces countdown .metagovStarts (clock.blockTime? m.startBlock config.averageBlockSeconds)
  unmet : m.WindowHasBegun config clock.block → m.forCount.toNat < m.quorumVotes.toNat →
    Announces countdown .metagovEnds (clock.blockTime? m.endBlock config.averageBlockSeconds)
  met : m.WindowHasBegun config clock.block → m.quorumVotes.toNat ≤ m.forCount.toNat →
    Announces countdown .expires (clock.blockTime? p.endBlock config.averageBlockSeconds)

/-- The countdown beside the status of an open proposal fits the vote on its motion. -/
lemma fitsVote_beside {phase : Motion.Phase} (hopen : p.IsOpen) (hactive : m.Effectively .active)
    (hread : clock.block ≠ 0) (hphase : (m.window config).phase clock.block = phase)
    (hended : phase ≠ .ended) (hquorum : phase = .executionWindow → m.quorumMet = false) :
    FitsVote m clock config (beside p clock poll (some m) config) phase := by
  subst hphase
  have hstatus : DisplayStatus.resolve p clock.block poll (some m) config = .metagovActive :=
    DisplayStatus.ofMotion_eq_metagovActive_iff.mpr ⟨hopen, hactive, hread, hended, hquorum⟩
  have hfits : Fits p m clock config (beside p clock poll (some m) config)
      (.resolve p clock.block poll (some m) config) := fits_beside
  rw [hstatus] at hfits
  exact hfits.1

/-- Beside an open proposal with a motion that is ready to execute, the end of the primary vote is
counted down to. -/
lemma announces_expires_beside (hopen : p.IsOpen) (hactive : m.Effectively .active)
    (hread : clock.block ≠ 0) (hphase : (m.window config).phase clock.block = .executionWindow)
    (hquorum : m.quorumMet = true) :
    Announces (beside p clock poll (some m) config) .expires
      (clock.blockTime? p.endBlock config.averageBlockSeconds) := by
  have hstatus : DisplayStatus.resolve p clock.block poll (some m) config =
      .metagovAwaitingExecution :=
    DisplayStatus.ofMotion_eq_metagovAwaitingExecution_iff.mpr
      ⟨hopen, hactive, hread, hphase, hquorum⟩
  have hfits : Fits p m clock config (beside p clock poll (some m) config)
      (.resolve p clock.block poll (some m) config) := fits_beside
  rw [hstatus] at hfits
  exact hfits

/-- Beside an open proposal, what is counted down to fits the start of its active motion. -/
lemma fitsStart_beside (hopen : p.IsOpen) (hactive : m.Effectively .active)
    (hawaited : m.IsAwaited clock.block) :
    FitsStart p m clock config (beside p clock poll (some m) config) := by
  have hread : clock.block ≠ 0 := by
    have hone := hawaited.read
    rw [ne_eq, block_eq_zero_iff]
    omega
  refine ⟨?_, ?_, ?_⟩
  · intro hbegun
    have hphase := Motion.phase_of_isAwaited hawaited hbegun
    exact fitsVote_beside hopen hactive hread hphase nofun nofun
  · intro hbegun hunmet
    have hphase := Motion.phase_of_windowHasBegun hawaited hbegun
    have hquorum : m.quorumMet = false := by
      rw [← Bool.not_eq_true, Motion.quorumMet_iff]
      omega
    exact (fitsVote_beside hopen hactive hread hphase nofun fun _ => hquorum).2
  · intro hbegun hmet
    have hphase := Motion.phase_of_windowHasBegun hawaited hbegun
    exact announces_expires_beside hopen hactive hread hphase (Motion.quorumMet_iff.mpr hmet)

/-- At a block before its start block a motion has not started, unless its execution window has
begun; then it is in that window, which is longer than the vote. Beside an open proposal with an
active motion, the start of the motion is counted down to, unless its execution window has begun. -/
theorem beside_before_start (m : Motion) (config : Config) (clock : ChainClock)
    (hawaited : m.IsAwaited clock.block) :
    ((m.window config).phase clock.block = .notStarted ↔ ¬m.WindowHasBegun config clock.block) ∧
    (m.WindowHasBegun config clock.block →
      (m.window config).phase clock.block = .executionWindow ∧
        m.endBlock.toNat - m.startBlock.toNat < m.executionBlocks config) ∧
    ∀ (p : Proposal) (poll : Option Poll), p.IsOpen → m.Effectively .active →
      FitsStart p m clock config (beside p clock poll (some m) config) := by
  refine ⟨Motion.phase_eq_notStarted_iff_of_isAwaited hawaited, ?_, ?_⟩
  · intro hbegun
    exact ⟨Motion.phase_of_windowHasBegun hawaited hbegun, hbegun.longer hawaited⟩
  · intro p poll hopen hactive
    exact fitsStart_beside hopen hactive hawaited

/-- An active proposal. -/
def moved : Proposal :=
  { Proposal.blank 10 with status := .active, startBlock := 100, endBlock := 5000 }

/-- A motion on it that is voted on for six hundred blocks. -/
def upcoming : Motion :=
  { Motion.blank 1 with
    externalId := some 10
    startBlock := 700
    endBlock := 1300
    quorumVotes := 5
    status := .active }

/-- With an execution window of a hundred blocks, the start of the motion is announced before its
start block. -/
theorem beside_before_start_shortWindow :
    moved.IsOpen ∧ upcoming.Effectively .active ∧ upcoming.IsAwaited 500 ∧
      ¬upcoming.WindowHasBegun { executionWindowBlocks := 100 } 500 ∧
      (upcoming.window { executionWindowBlocks := 100 }).phase 500 = .notStarted ∧
      Announces (beside moved ⟨500, .epoch⟩ none (some upcoming) { executionWindowBlocks := 100 })
        .metagovStarts ((⟨500, .epoch⟩ : ChainClock).blockTime? 700 12) ∧
      ((⟨500, .epoch⟩ : ChainClock).blockTime? 700 12).isSome = true := by
  have hopen : moved.IsOpen := .inr rfl
  have hactive : upcoming.Effectively .active := ⟨rfl, rfl, rfl⟩
  have hawaited : upcoming.IsAwaited 500 := ⟨by decide, by decide, by decide⟩
  have hbegun : ¬upcoming.WindowHasBegun { executionWindowBlocks := 100 } 500 := by
    unfold Motion.WindowHasBegun
    decide
  obtain ⟨hphase, -, hcountdown⟩ := beside_before_start upcoming { executionWindowBlocks := 100 }
    ⟨500, .epoch⟩ hawaited
  exact ⟨hopen, hactive, hawaited, hbegun, hphase.mpr hbegun,
    (hcountdown moved none hopen hactive).notBegun hbegun, by decide⟩

/-- The default execution window is longer than the vote. Two hundred blocks before the start block
the motion is in it: its end is announced, and with a quorum it is said to be ready to execute. -/
theorem beside_longWindow :
    upcoming.IsAwaited 500 ∧
      (upcoming.window {}).phase 500 = .executionWindow ∧
      (∃ c ∈ beside moved ⟨500, .epoch⟩ none (some upcoming) {}, c.kind = .metagovEnds) ∧
      DisplayStatus.resolve moved 500 none (some { upcoming with forCount := 5 }) {} =
        .metagovAwaitingExecution ∧
      ∃ c ∈ beside moved ⟨500, .epoch⟩ none (some { upcoming with forCount := 5 }) {},
        c.kind = .expires := by
  refine ⟨⟨by decide, by decide, by decide⟩, by decide,
    ⟨⟨.metagovEnds, ⟨9600, 0, by decide, by decide, by decide⟩⟩, by decide, rfl⟩, by decide,
    ⟨⟨.expires, ⟨54000, 0, by decide, by decide, by decide⟩⟩, by decide, rfl⟩⟩

end Countdown

end ProposalBoard
