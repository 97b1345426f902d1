import Mathlib.Data.Set.Card
import Mathlib.Order.Interval.Finset.Nat
import ProposalBoard.Proofs.Defaults
import ProposalBoard.Proofs.Motion

/-!
# Blocks of the phases

Start block, end block and execution window of a motion are independent of each other: the vote may
end before it starts, and the window may be empty, longer than the vote or longer than the chain up
to the end block. The main statement `phases_ascend` says that the phases come in their order all
the same. Each takes up an interval of blocks (`blocksIn_eq_Ico`), the execution window the last
ones before the end block, of which there are as many as the window has or as there are at all.
-/

namespace ProposalBoard.Motion

/-- The numbers of the blocks at which a motion is in a phase. -/
def blocksIn (m : Motion) (config : Config) (phase : Phase) : Set Nat :=
  UInt64.toNat '' {block | (m.window config).phase block = phase}

variable {m : Motion} {config : Config}

/-- A phase that is told by two bounds takes up the interval between them. -/
lemma blocksIn_eq_Ico {phase : Phase} {first next : Nat} (hnext : next ≤ UInt64.size)
    (hphase : ∀ block : UInt64, (m.window config).phase block = phase ↔
      first ≤ block.toNat ∧ block.toNat < next) :
    m.blocksIn config phase = Set.Ico first next := by
  ext n
  constructor
  · rintro ⟨block, hblock, rfl⟩
    exact (hphase block).mp hblock
  · rintro ⟨hfirst, hlt⟩
    -- a number below the bound is the number of a block
    have hnumber : (UInt64.ofNat n).toNat = n :=
      UInt64.toNat_ofNat_of_lt' (Nat.lt_of_lt_of_le hlt hnext)
    exact ⟨UInt64.ofNat n, (hphase _).mpr (hnumber.symm ▸ ⟨hfirst, hlt⟩), hnumber⟩

/-- The blocks before a motion starts, which are those before its start block or its execution
window, whichever comes first. -/
lemma blocksIn_notStarted :
    m.blocksIn config .notStarted =
      Set.Ico 0 (min m.startBlock.toNat (m.endBlock.toNat - m.executionBlocks config)) := by
  have hsize := m.startBlock.toNat_lt_size
  apply blocksIn_eq_Ico
  · omega
  · intro block
    rw [phase_eq_notStarted_iff]
    omega

/-- The blocks from the start block of a motion to its execution window. -/
lemma blocksIn_voting :
    m.blocksIn config .voting =
      Set.Ico m.startBlock.toNat (m.endBlock.toNat - m.executionBlocks config) := by
  have hsize := m.endBlock.toNat_lt_size
  apply blocksIn_eq_Ico
  · omega
  · intro block
    rw [phase_eq_voting_iff]
    omega

/-- The last blocks before the end block of a motion. -/
lemma blocksIn_executionWindow :
    m.blocksIn config .executionWindow =
      Set.Ico (m.endBlock.toNat - min (m.executionBlocks config) m.endBlock.toNat)
        m.endBlock.toNat := by
  apply blocksIn_eq_Ico m.endBlock.toNat_lt_size.le
  intro block
  rw [phase_eq_executionWindow_iff]
  omega

/-- The blocks from the end block of a motion on. -/
lemma blocksIn_ended :
    m.blocksIn config .ended = Set.Ico m.endBlock.toNat UInt64.size := by
  apply blocksIn_eq_Ico (Nat.le_refl _)
  intro block
  rw [phase_eq_ended_iff]
  exact (and_iff_left block.toNat_lt_size).symm

/-- The execution window has its number of blocks, unless fewer come before the end block. -/
lemma ncard_blocksIn_executionWindow :
    (m.blocksIn config .executionWindow).ncard =
      min (m.executionBlocks config) m.endBlock.toNat := by
  rw [blocksIn_executionWindow, ← Finset.coe_Ico, Set.ncard_coe_finset, Nat.card_Ico]
  omega

/-- At a later block a motion is in no earlier phase. It can be executed in the last blocks before
its end block, as many as its window has or all of them, and is over from the end block on. Before
the window it has not started up to its start block, and is voted on from there. -/
theorem phases_ascend (m : Motion) (config : Config) :
    (∀ earlier later : UInt64, earlier ≤ later →
      ((m.window config).phase earlier).rank ≤ ((m.window config).phase later).rank) ∧
    m.blocksIn config .executionWindow =
      Set.Ico (m.endBlock.toNat - min (m.executionBlocks config) m.endBlock.toNat)
        m.endBlock.toNat ∧
    (m.blocksIn config .executionWindow).ncard =
      min (m.executionBlocks config) m.endBlock.toNat ∧
    m.blocksIn config .ended = Set.Ico m.endBlock.toNat UInt64.size ∧
    m.blocksIn config .notStarted =
      Set.Ico 0 (min m.startBlock.toNat (m.endBlock.toNat - m.executionBlocks config)) ∧
    m.blocksIn config .voting =
      Set.Ico m.startBlock.toNat (m.endBlock.toNat - m.executionBlocks config) :=
  ⟨fun _ _ => phase_rank_mono, blocksIn_executionWindow, ncard_blocksIn_executionWindow,
    blocksIn_ended, blocksIn_notStarted, blocksIn_voting⟩

/-- A motion that ends before it starts. -/
def reversed : Motion :=
  { Motion.blank 1 with startBlock := 5000, endBlock := 1000, executionWindow := some 400 }

/-- A motion that ends before it starts is never voted on, and goes over to its execution window
all the same. With the longer window of the configuration it is there from block zero on. -/
theorem phases_ascend_reversed :
    (599 : UInt64) ≤ 600 ∧
      (reversed.window {}).phase 599 = .notStarted ∧
      (reversed.window {}).phase 600 = .executionWindow ∧
      ((reversed.window {}).phase 599).rank ≤ ((reversed.window {}).phase 600).rank ∧
      reversed.blocksIn {} .executionWindow = Set.Ico 600 1000 ∧
      reversed.blocksIn {} .voting = ∅ ∧
      { reversed with executionWindow := none }.blocksIn {} .executionWindow = Set.Ico 0 1000 := by
  have hle : (599 : UInt64) ≤ 600 := by decide
  obtain ⟨hascend, hwindow, -, -, -, hvoting⟩ := phases_ascend reversed {}
  obtain ⟨-, hsaturated, -⟩ := phases_ascend { reversed with executionWindow := none } {}
  exact ⟨hle, by decide, by decide, hascend 599 600 hle, hwindow,
    hvoting.trans (Set.Ico_eq_empty (by decide)), hsaturated⟩

end ProposalBoard.Motion
