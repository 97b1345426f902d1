import Mathlib.Logic.Basic
import Mathlib.Tactic.Lemma
import Mathlib.Tactic.SplitIfs
import ProposalBoard.Motion.Window

/-!
# Motions told from their fields

What the effective status of a motion and its phase at a block come down to: the two final flags
and the status on record, and inequalities between block numbers. The inequalities are between
natural numbers, so that a window longer than the vote needs no case of its own. The phases have
a rank, which no later block lowers.
-/

namespace ProposalBoard.Motion

variable {m : Motion} {config : Config} {block : UInt64}

/-- Where a motion stands by its two flags and the status on record. -/
def Effectively (m : Motion) : Status → Prop
  | .vetoed => m.vetoed = true ∨ (m.executed = false ∧ m.status = .vetoed)
  | .executed => m.vetoed = false ∧ (m.executed = true ∨ m.status = .executed)
  | .active => m.vetoed = false ∧ m.executed = false ∧ m.status = .active
  | .expired => m.vetoed = false ∧ m.executed = false ∧ m.status = .expired
  | .undetermined => m.vetoed = false ∧ m.executed = false ∧ m.status = .undetermined

/-- The number of blocks in front of the end block in which a motion may be executed. -/
def executionBlocks (m : Motion) (config : Config) : Nat :=
  (m.executionWindow.getD config.executionWindowBlocks).toNat

/-- The effective status is the one that flags and record tell. -/
lemma effectiveStatus_eq_iff {status : Status} :
    m.effectiveStatus = status ↔ m.Effectively status := by
  unfold effectiveStatus
  cases hv : m.vetoed <;> cases he : m.executed <;> cases status <;> simp [Effectively, hv, he]

/-- A quorum is a number of votes in favour. -/
lemma quorumMet_iff : m.quorumMet = true ↔ m.quorumVotes.toNat ≤ m.forCount.toNat := by
  simp [quorumMet, UInt64.le_iff_toNat_le]

/-- Counting back from a block stops at block zero. -/
lemma toNat_blocksBefore (block count : UInt64) :
    (blocksBefore block count).toNat = block.toNat - count.toNat := by
  unfold blocksBefore
  split
  · next h => exact UInt64.toNat_sub_of_le _ _ h
  · next h =>
    rw [UInt64.le_iff_toNat_le] at h
    simp only [UInt64.toNat_zero]
    omega

/-- The execution window begins its number of blocks in front of the end block. -/
lemma toNat_executionStartBlock :
    (m.window config).executionStartBlock.toNat = m.endBlock.toNat - m.executionBlocks config :=
  toNat_blocksBefore _ _

/-! ## Phases -/

/-- The phase at a block, told between natural numbers. -/
lemma phase_window :
    (m.window config).phase block =
      if m.endBlock.toNat ≤ block.toNat then .ended
      else if m.endBlock.toNat ≤ block.toNat + m.executionBlocks config then .executionWindow
      else if block.toNat < m.startBlock.toNat then .notStarted
      else .voting := by
  have hwindow : (m.window config).executionStartBlock ≤ block ↔
      m.endBlock.toNat ≤ block.toNat + m.executionBlocks config := by
    rw [UInt64.le_iff_toNat_le, toNat_executionStartBlock]
    omega
  unfold Window.phase
  apply if_congr UInt64.le_iff_toNat_le rfl
  apply if_congr hwindow rfl
  exact if_congr UInt64.lt_iff_toNat_lt rfl rfl

/-- A motion is over from its end block on. -/
lemma phase_eq_ended_iff :
    (m.window config).phase block = .ended ↔ m.endBlock.toNat ≤ block.toNat := by
  rw [phase_window]
  split_ifs with hend <;> simp [hend]

/-- A motion can be executed in the blocks of its window that come before the end block. -/
lemma phase_eq_executionWindow_iff :
    (m.window config).phase block = .executionWindow ↔
      m.endBlock.toNat ≤ block.toNat + m.executionBlocks config ∧
        block.toNat < m.endBlock.toNat := by
  rw [phase_window]
  split_ifs with hend hwindow
  · simp [hend]
  · simp [hwindow, Nat.lt_of_not_le hend]
  all_goals simp [hwindow]

/-- A motion has not started before its start block, unless the execution window has begun. -/
lemma phase_eq_notStarted_iff :
    (m.window config).phase block = .notStarted ↔
      block.toNat + m.executionBlocks config < m.endBlock.toNat ∧
        block.toNat < m.startBlock.toNat := by
  rw [phase_window]
  split_ifs <;> simp <;> omega

/-- Nothing but voting goes on from the start block of a motion to its execution window. -/
lemma phase_eq_voting_iff :
    (m.window config).phase block = .voting ↔
      block.toNat + m.executionBlocks config < m.endBlock.toNat ∧
        m.startBlock.toNat ≤ block.toNat := by
  rw [phase_window]
  split_ifs <;> simp <;> omega

/-- Votes on a motion count until it ends, in the execution window only without a quorum. -/
lemma phase_voting_iff :
    ((m.window config).phase block ≠ .ended ∧
        ((m.window config).phase block = .executionWindow → m.quorumMet = false)) ↔
      block.toNat < m.endBlock.toNat ∧
        (block.toNat + m.executionBlocks config < m.endBlock.toNat ∨
          m.forCount.toNat < m.quorumVotes.toNat) := by
  rw [ne_eq, phase_eq_ended_iff, phase_eq_executionWindow_iff, ← Bool.not_eq_true, quorumMet_iff]
  omega

/-- The place of a phase in the order of the phases. -/
def Phase.rank : Phase → Nat
  | notStarted => 0
  | voting => 1
  | executionWindow => 2
  | ended => 3

/-- A later block is in no earlier phase. -/
lemma phase_rank_mono {block' : UInt64} (h : block ≤ block') :
    ((m.window config).phase block).rank ≤ ((m.window config).phase block').rank := by
  rw [UInt64.le_iff_toNat_le] at h
  rw [phase_window, phase_window]
  split_ifs <;> simp only [Phase.rank] <;> omega

end ProposalBoard.Motion
