import ProposalBoard.Names

/-!
# Configuration

The constants that the resolution of a board depends on. A configuration that is read is checked
afterwards: blocks have to take time, and the time for execution must not end before it begins.
-/

namespace ProposalBoard

/-- The constants of a board. -/
structure Config where
  /-- The blocks before the last one of a motion in which it may be executed, unless the motion
  says otherwise. -/
  executionWindowBlocks : UInt64 := 2500
  averageBlockSeconds : UInt64 := 12
  /-- The first primary proposal that the federation votes on. Without it, the earliest motion
  tells. -/
  federationThreshold : Option UInt64 := none
  /-- The days after its eta at which a queued proposal expires. -/
  expiryGraceDays : Int64 := 14
  names : Names := {}
deriving DecidableEq, Inhabited

namespace Config

/-- What can be wrong with a configuration. -/
inductive Fault where
  | zeroBlockTime
  | negativeGrace
deriving DecidableEq, Repr

/-- The words for a fault. -/
def Fault.message : Fault → String
  | zeroBlockTime => "average_block_time_secs must be greater than zero"
  | negativeGrace => "expiry_grace_days cannot be negative"

/-- The first fault of a configuration. -/
def fault? (c : Config) : Option Fault :=
  if c.averageBlockSeconds = 0 then some .zeroBlockTime
  else if c.expiryGraceDays < 0 then some .negativeGrace
  else none

instance : Codec Config where
  encode c := .obj [
    ("execution_window_blocks", encode c.executionWindowBlocks),
    ("average_block_time_secs", encode c.averageBlockSeconds),
    ("federation_id_threshold", encode c.federationThreshold),
    ("expiry_grace_days", encode c.expiryGraceDays),
    ("names", encode c.names)]
  decode? j := do
    let f ← Json.Fields.ofJson? ["execution_window_blocks", "average_block_time_secs",
      "federation_id_threshold", "expiry_grace_days", "names"] j
    return {
      executionWindowBlocks := ← f.orElse "execution_window_blocks" 2500
      averageBlockSeconds := ← f.orElse "average_block_time_secs" 12
      federationThreshold := ← f.orElse "federation_id_threshold" none
      expiryGraceDays := ← f.orElse "expiry_grace_days" 14
      names := ← f.orElse "names" {} }

end Config

end ProposalBoard
