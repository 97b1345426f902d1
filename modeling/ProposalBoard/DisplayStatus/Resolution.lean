import ProposalBoard.DisplayStatus
import ProposalBoard.Motion.Window
import ProposalBoard.Poll

/-!
# Resolution

The display status of a proposal from its own status and the vote of the second community. A
motion decides before a poll. A proposal that the federation votes on but that has no motion yet
waits for one. A proposal with neither is shown as the primary DAO has it, except that an active
one waits for the second community to vote.
-/

namespace ProposalBoard

/-- Whether the second community votes on a proposal by a motion rather than a poll. -/
def Proposal.isFederationManaged (p : Proposal) (config : Config) : Bool :=
  config.federationThreshold.any (· ≤ p.id)

namespace DisplayStatus

/-- A status for proposals whose primary vote has not closed; the others are shown as they are. -/
def whenOpen (primary : Proposal.Status) (status : DisplayStatus) : DisplayStatus :=
  if primary.isOpen then status else ofPrimary primary

/-- A status for active proposals; the others are shown as they are. -/
def whenActive (primary : Proposal.Status) (status : DisplayStatus) : DisplayStatus :=
  if primary = .active then status else ofPrimary primary

/-- The status of an active motion by the phase that it is in. Voting goes on in the execution
window until there is a quorum. -/
def ofPhase (quorumMet : Bool) : Motion.Phase → DisplayStatus
  | .notStarted | .voting => metagovActive
  | .executionWindow => if quorumMet then metagovAwaitingExecution else metagovActive
  | .ended => metagovExpired

/-- The status of a proposal with a motion. While no block is known the phase of an active motion
cannot be told, and the proposal is shown as it is. -/
def ofMotion (primary : Proposal.Status) (block : UInt64) (m : Motion) (config : Config) :
    DisplayStatus :=
  match m.effectiveStatus with
  | .active =>
    if block = 0 then ofPrimary primary
    else whenOpen primary (ofPhase m.quorumMet ((m.window config).phase block))
  | .executed => whenActive primary metagovClosed
  | .expired => whenOpen primary metagovExpired
  | .vetoed => whenOpen primary metagovVetoed
  | .undetermined => whenOpen primary metagovAwaitingInitiation

/-- The status of a proposal with a poll. -/
def ofPoll (primary : Proposal.Status) : Poll.State → DisplayStatus
  | .active => whenOpen primary metagovActive
  | .closed => whenActive primary metagovClosed
  | .pending => pending
  | .unknown => ofPrimary primary

/-- The status of a proposal at a block, with the poll and the motion that belong to it. -/
def resolve (p : Proposal) (block : UInt64) (poll : Option Poll) (motion : Option Motion)
    (config : Config) : DisplayStatus :=
  match motion with
  | some m => ofMotion p.status block m config
  | none =>
    if p.isFederationManaged config then whenOpen p.status metagovAwaitingInitiation
    else match poll with
      | some poll => ofPoll p.status poll.state
      | none => whenActive p.status metagovPending

end DisplayStatus

end ProposalBoard
