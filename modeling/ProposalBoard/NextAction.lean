import ProposalBoard.DisplayStatus

/-!
# Next action

The step that a user may take from the page of a proposal.
-/

namespace ProposalBoard

/-- A step that a user may take. -/
inductive NextAction where
  | queue
  | execute
  /-- Put a motion before the federation. -/
  | startMetagovVote
  /-- Cast the outcome of the motion into the primary DAO. -/
  | castMetagovVote
deriving DecidableEq, Repr, Inhabited

namespace NextAction

/-- The step that is waited for. A queued proposal can be executed from its eta on. -/
def ofStatus (p : Proposal) (status : DisplayStatus) (now : Instant) : Option NextAction :=
  match status with
  | .succeeded => some queue
  | .queued => if p.eta.any (· ≤ now) then some execute else none
  | .metagovAwaitingInitiation => some startMetagovVote
  | .metagovAwaitingExecution => some castMetagovVote
  | _ => none

/-- The words on the button for a step. -/
def buttonLabel (names : Names) : NextAction → String
  | queue => "Queue"
  | execute => "Execute"
  | startMetagovVote => "Start Voting"
  | castMetagovVote => "Cast Vote into " ++ names.primary ++ " DAO"

/-- The name of a step. -/
def name : NextAction → String
  | queue => "queue"
  | execute => "execute"
  | startMetagovVote => "start_metagov_vote"
  | castMetagovVote => "cast_metagov_vote"

/-- The step with a name. -/
def ofName? : String → Option NextAction
  | "queue" => some queue
  | "execute" => some execute
  | "start_metagov_vote" => some startMetagovVote
  | "cast_metagov_vote" => some castMetagovVote
  | _ => none

instance : Codec NextAction := .ofNames name ofName?

end NextAction

end ProposalBoard
