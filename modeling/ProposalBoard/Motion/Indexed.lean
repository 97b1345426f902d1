import ProposalBoard.Motion
import ProposalBoard.Text.Numeral

/-!
# Indexed motions

Motions as the indexing service delivers them, with all numbers as texts. A text that is no
numeral counts as zero, except in the id of the primary proposal, where it stands for no id.
-/

namespace ProposalBoard

/-- The account that put a motion forward, as the index refers to it. -/
structure IndexedAccount where
  id : String
deriving DecidableEq

/-- A motion as the index has it. -/
structure IndexedMotion where
  id : String
  proposer : Option IndexedAccount
  externalDao : String
  externalId : String
  quorumVotes : String
  startBlock : String
  endBlock : String
  forVotes : String
  againstVotes : String
  abstainVotes : String
  vetoed : Bool
  executed : Bool
  status : String
deriving DecidableEq

namespace IndexedMotion

/-- The number that a text stands for, blanks around the numeral being skipped. -/
def number? (s : String) : Option UInt64 :=
  Text.readWord? (Text.trim s.toList)

/-- The number that a text stands for, zero if it is no numeral. -/
def count (s : String) : UInt64 :=
  (number? s).getD 0

/-- The status of the motion: the final flags first, then the name that the index uses. -/
def motionStatus (m : IndexedMotion) : Motion.Status :=
  if m.vetoed then .vetoed
  else if m.executed then .executed
  else if m.status = "EXPIRED" then .expired
  else if m.status = "ACTIVE" then .active
  else .undetermined

/-- The motion that an entry of the index describes. -/
def toMotion (m : IndexedMotion) : Motion where
  id := count m.id
  proposer := (m.proposer.map IndexedAccount.id).getD ""
  externalDao := m.externalDao
  externalId := number? m.externalId
  quorumVotes := count m.quorumVotes
  startBlock := count m.startBlock
  endBlock := count m.endBlock
  forCount := count m.forVotes
  againstCount := count m.againstVotes
  abstainCount := count m.abstainVotes
  vetoed := m.vetoed
  executed := m.executed
  status := m.motionStatus
  executionWindow := none

end IndexedMotion

instance : Codec IndexedAccount where
  encode a := .obj [("id", encode a.id)]
  decode? j := do
    let f ← Json.Fields.ofJson? ["id"] j
    return { id := ← f.required "id" }

instance : Codec IndexedMotion where
  encode m := .obj [
    ("id", encode m.id),
    ("proposer", encode m.proposer),
    ("eDAO", encode m.externalDao),
    ("eID", encode m.externalId),
    ("quorumVotes", encode m.quorumVotes),
    ("startBlock", encode m.startBlock),
    ("endBlock", encode m.endBlock),
    ("forVotes", encode m.forVotes),
    ("againstVotes", encode m.againstVotes),
    ("abstainVotes", encode m.abstainVotes),
    ("vetoed", encode m.vetoed),
    ("executed", encode m.executed),
    ("status", encode m.status)]
  decode? j := do
    let f ← Json.Fields.ofJson? ["id", "proposer", "eDAO", "eID", "quorumVotes", "startBlock",
      "endBlock", "forVotes", "againstVotes", "abstainVotes", "vetoed", "executed", "status"] j
    return {
      id := ← f.required "id"
      proposer := ← f.orElse "proposer" none
      externalDao := ← f.orElse "eDAO" ""
      externalId := ← f.orElse "eID" ""
      quorumVotes := ← f.orElse "quorumVotes" ""
      startBlock := ← f.orElse "startBlock" ""
      endBlock := ← f.orElse "endBlock" ""
      forVotes := ← f.orElse "forVotes" ""
      againstVotes := ← f.orElse "againstVotes" ""
      abstainVotes := ← f.orElse "abstainVotes" ""
      vetoed := ← f.orElse "vetoed" false
      executed := ← f.orElse "executed" false
      status := ← f.orElse "status" "" }

end ProposalBoard
