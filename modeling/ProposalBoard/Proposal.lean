import ProposalBoard.Json.Record
import ProposalBoard.Time.Timestamp

/-!
# Proposals

A governance proposal of the primary DAO, as its contract reports it.
-/

namespace ProposalBoard

/-- Where a proposal stands on the primary DAO. -/
inductive Proposal.Status where
  | pending
  | active
  | canceled
  | defeated
  | succeeded
  | queued
  | expired
  | executed
  | vetoed
  | undetermined
deriving DecidableEq, Repr, Inhabited

/-- A proposal of the primary DAO. -/
structure Proposal where
  id : UInt64
  title : String
  proposer : String
  startBlock : UInt64
  endBlock : UInt64
  createdBlock : UInt64
  /-- The earliest instant of execution, once the proposal is queued. -/
  eta : Option Instant
  quorumVotes : UInt64
  forCount : UInt64
  againstCount : UInt64
  abstainCount : UInt64
  status : Proposal.Status
  /-- The hash of the transaction that created the proposal. Polls mention it. -/
  transactionHash : String
deriving DecidableEq

namespace Proposal

/-- Whether the primary vote has not closed yet. -/
def Status.isOpen : Status → Bool
  | pending | active => true
  | _ => false

/-- The name of a status. -/
def Status.name : Status → String
  | pending => "Pending"
  | active => "Active"
  | canceled => "Canceled"
  | defeated => "Defeated"
  | succeeded => "Succeeded"
  | queued => "Queued"
  | expired => "Expired"
  | executed => "Executed"
  | vetoed => "Vetoed"
  | undetermined => "Undetermined"

/-- The status with a name, also under the other spelling of canceled. An unknown name is
undetermined. -/
def Status.ofName : String → Status
  | "Pending" => pending
  | "Active" => active
  | "Canceled" | "Cancelled" => canceled
  | "Defeated" => defeated
  | "Succeeded" => succeeded
  | "Queued" => queued
  | "Expired" => expired
  | "Executed" => executed
  | "Vetoed" => vetoed
  | _ => undetermined

instance : Codec Status := .ofNames Status.name fun s => some (Status.ofName s)

instance : Codec Proposal where
  encode p := .obj [
    ("id", encode p.id),
    ("title", encode p.title),
    ("proposer", encode p.proposer),
    ("startBlock", encode p.startBlock),
    ("endBlock", encode p.endBlock),
    ("createdBlock", encode p.createdBlock),
    ("eta", encode p.eta),
    ("quorumVotes", encode p.quorumVotes),
    ("forCount", encode p.forCount),
    ("againstCount", encode p.againstCount),
    ("abstainCount", encode p.abstainCount),
    ("status", encode p.status),
    ("transactionHash", encode p.transactionHash)]
  decode? j := do
    let f ← Json.Fields.ofJson? ["id", "title", "proposer", "startBlock", "endBlock",
      "createdBlock", "eta", "quorumVotes", "forCount", "againstCount", "abstainCount", "status",
      "transactionHash"] j
    return {
      id := ← f.required "id"
      title := ← f.orElse "title" ""
      proposer := ← f.orElse "proposer" ""
      startBlock := ← f.orElse "startBlock" 0
      endBlock := ← f.orElse "endBlock" 0
      createdBlock := ← f.orElse "createdBlock" 0
      eta := ← f.orElse "eta" none
      quorumVotes := ← f.orElse "quorumVotes" 0
      forCount := ← f.orElse "forCount" 0
      againstCount := ← f.orElse "againstCount" 0
      abstainCount := ← f.orElse "abstainCount" 0
      status := ← f.orElse "status" .undetermined
      transactionHash := ← f.orElse "transactionHash" "" }

end Proposal

end ProposalBoard
