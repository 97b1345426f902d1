import ProposalBoard.Motion
import ProposalBoard.Poll
import ProposalBoard.Proposal
import ProposalBoard.Table
import ProposalBoard.Time.ChainClock
import ProposalBoard.Vote

/-!
# Board

Everything that is known about the proposals at one moment: the latest block, the proposals
themselves with the polls and motions on them, the delegates, and the votes.
-/

namespace ProposalBoard

/-- What is known about the proposals at one moment. -/
structure Board where
  currentBlock : UInt64
  /-- The instant of the current block. Without it, the present instant counts. -/
  now : Option Instant
  proposals : List Proposal
  polls : List Poll
  motions : List Motion
  delegates : List Delegate
  /-- The primary votes by proposal. -/
  proposalVotes : Table UInt64 (List Receipt)
  /-- The votes in polls by poll. -/
  pollVotes : Table String (List Ballot)
  /-- The votes on motions by motion. -/
  motionVotes : Table UInt64 (List Receipt)

namespace Board

/-- The clock of a board, where the given instant is the present one. -/
def clock (board : Board) (present : Instant) : ChainClock :=
  ⟨board.currentBlock, board.now.getD present⟩

instance : Codec Board where
  encode b := .obj [
    ("current_block", encode b.currentBlock),
    ("now", encode b.now),
    ("proposals", encode b.proposals),
    ("snapshot_proposals", encode b.polls),
    ("federation_proposals", encode b.motions),
    ("delegates", encode b.delegates),
    ("proposal_votes", encode b.proposalVotes),
    ("snapshot_votes", encode b.pollVotes),
    ("federation_votes", encode b.motionVotes)]
  decode? j := do
    let f ← Json.Fields.ofJson? ["current_block", "now", "proposals", "snapshot_proposals",
      "federation_proposals", "delegates", "proposal_votes", "snapshot_votes",
      "federation_votes"] j
    return {
      currentBlock := ← f.required "current_block"
      now := ← f.orElse "now" none
      proposals := ← f.orElse "proposals" []
      polls := ← f.orElse "snapshot_proposals" []
      motions := ← f.orElse "federation_proposals" []
      delegates := ← f.orElse "delegates" []
      proposalVotes := ← f.orElse "proposal_votes" ∅
      pollVotes := ← f.orElse "snapshot_votes" ∅
      motionVotes := ← f.orElse "federation_votes" ∅ }

end Board

end ProposalBoard
