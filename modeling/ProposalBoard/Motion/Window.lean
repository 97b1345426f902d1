import ProposalBoard.Config
import ProposalBoard.Motion

/-!
# Window of a motion

The blocks that divide the life of a motion: voting from the start block on, execution in the last
blocks before the end block, nothing from the end block on. An execution window longer than the
vote reaches back before the start block, but never before block zero.
-/

namespace ProposalBoard.Motion

/-- The phases of a motion in their order. -/
inductive Phase where
  | notStarted
  | voting
  | executionWindow
  | ended
deriving DecidableEq, Repr, Inhabited

/-- The blocks at which the phases of a motion begin. -/
structure Window where
  startBlock : UInt64
  executionStartBlock : UInt64
  endBlock : UInt64
deriving DecidableEq

/-- The block that is a number of blocks before another, or block zero. -/
def blocksBefore (block count : UInt64) : UInt64 :=
  if count ≤ block then block - count else 0

/-- The window of a motion. -/
def window (m : Motion) (config : Config) : Window where
  startBlock := m.startBlock
  executionStartBlock :=
    blocksBefore m.endBlock (m.executionWindow.getD config.executionWindowBlocks)
  endBlock := m.endBlock

/-- The phase at a block. The later boundaries are looked at first. -/
def Window.phase (w : Window) (block : UInt64) : Phase :=
  if w.endBlock ≤ block then .ended
  else if w.executionStartBlock ≤ block then .executionWindow
  else if block < w.startBlock then .notStarted
  else .voting

/-- The name of a phase. -/
def Phase.name : Phase → String
  | notStarted => "NotStarted"
  | voting => "Voting"
  | executionWindow => "ExecutionWindow"
  | ended => "Ended"

end ProposalBoard.Motion
