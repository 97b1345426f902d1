import ProposalBoard.Json.Record

/-!
# Motions

A motion is a proposal of the federation: a second population of voters votes on it, and the
outcome is cast into the primary DAO as the vote of a delegate. It names the primary proposal that
it is about by its id.
-/

namespace ProposalBoard

/-- Where a motion stands in the federation's contract. -/
inductive Motion.Status where
  | active
  | expired
  | executed
  | vetoed
  | undetermined
deriving DecidableEq, Repr, Inhabited

/-- A proposal of the federation. -/
structure Motion where
  id : UInt64
  proposer : String
  /-- The address of the DAO that the outcome is cast into. -/
  externalDao : String
  /-- The id of the primary proposal that the motion is about. -/
  externalId : Option UInt64
  quorumVotes : UInt64
  startBlock : UInt64
  endBlock : UInt64
  forCount : UInt64
  againstCount : UInt64
  abstainCount : UInt64
  vetoed : Bool
  executed : Bool
  status : Motion.Status
  /-- The number of blocks before the last one in which a motion with a quorum may be executed,
  if it differs from the configured number. -/
  executionWindow : Option UInt64
deriving DecidableEq

namespace Motion

/-- The status with the contract's final flags applied, a veto before an execution. -/
def effectiveStatus (m : Motion) : Status :=
  if m.vetoed then .vetoed else if m.executed then .executed else m.status

/-- Whether enough votes are in favour. -/
def quorumMet (m : Motion) : Bool :=
  m.quorumVotes ≤ m.forCount

/-- The name of a status. -/
def Status.name : Status → String
  | active => "Active"
  | expired => "Expired"
  | executed => "Executed"
  | vetoed => "Vetoed"
  | undetermined => "Undetermined"

/-- The status with a name. Any other name is undetermined. -/
def Status.ofName : String → Status
  | "Active" => active
  | "Expired" => expired
  | "Executed" => executed
  | "Vetoed" => vetoed
  | _ => undetermined

instance : Codec Status := .ofNames Status.name fun s => some (Status.ofName s)

instance : Codec Motion where
  encode m := .obj [
    ("id", encode m.id),
    ("proposer", encode m.proposer),
    ("eDAO", encode m.externalDao),
    ("eID", encode m.externalId),
    ("quorumVotes", encode m.quorumVotes),
    ("startBlock", encode m.startBlock),
    ("endBlock", encode m.endBlock),
    ("forCount", encode m.forCount),
    ("againstCount", encode m.againstCount),
    ("abstainCount", encode m.abstainCount),
    ("vetoed", encode m.vetoed),
    ("executed", encode m.executed),
    ("status", encode m.status),
    ("executionWindow", encode m.executionWindow)]
  decode? j := do
    let f ← Json.Fields.ofJson? ["id", "proposer", "eDAO", "eID", "quorumVotes", "startBlock",
      "endBlock", "forCount", "againstCount", "abstainCount", "vetoed", "executed", "status",
      "executionWindow"] j
    return {
      id := ← f.required "id"
      proposer := ← f.orElse "proposer" ""
      externalDao := ← f.orElse "eDAO" ""
      externalId := ← f.orElse "eID" none
      quorumVotes := ← f.orElse "quorumVotes" 0
      startBlock := ← f.orElse "startBlock" 0
      endBlock := ← f.orElse "endBlock" 0
      forCount := ← f.orElse "forCount" 0
      againstCount := ← f.orElse "againstCount" 0
      abstainCount := ← f.orElse "abstainCount" 0
      vetoed := ← f.orElse "vetoed" false
      executed := ← f.orElse "executed" false
      status := ← f.orElse "status" .undetermined
      executionWindow := ← f.orElse "executionWindow" none }

end Motion

end ProposalBoard
