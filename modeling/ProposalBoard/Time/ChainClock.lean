import ProposalBoard.Json.Record
import ProposalBoard.Time.Timestamp

/-!
# Chain clock

The latest block together with the instant at which it was seen. Other blocks are placed in time
by assuming that each takes the same number of seconds.
-/

namespace ProposalBoard

/-- The latest block and the instant at which it was seen. -/
structure ChainClock where
  /-- The number of the latest block. Zero means that the chain has not been read yet. -/
  block : UInt64
  now : Instant
deriving DecidableEq

namespace ChainClock

/-- Whether the chain has been read. -/
def isLoaded (clock : ChainClock) : Bool :=
  0 < clock.block

/-- A number that fits a signed 64-bit word. -/
def signedWord? (n : Int) : Option Int :=
  if Int64.minValue.toInt ≤ n ∧ n ≤ Int64.maxValue.toInt then some n else none

/-- The estimated instant of a block. It is unknown while the chain has not been read, when a
number involved does not fit a signed 64-bit word, and outside the range of instants. -/
def blockTime? (clock : ChainClock) (block secondsPerBlock : UInt64) : Option Instant := do
  guard clock.isLoaded
  let target ← signedWord? block.toNat
  let current ← signedWord? clock.block.toNat
  let blocks ← signedWord? (target - current)
  let secondsEach ← signedWord? secondsPerBlock.toNat
  let seconds ← signedWord? (blocks * secondsEach)
  clock.now.addSeconds? seconds

end ChainClock

instance : Codec ChainClock where
  encode c := .obj [("current_block", encode c.block), ("now", encode c.now)]
  decode? j := do
    let f ← Json.Fields.ofJson? ["current_block", "now"] j
    return { block := ← f.required "current_block", now := ← f.required "now" }

end ProposalBoard
