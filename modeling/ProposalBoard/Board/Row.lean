import ProposalBoard.Board
import ProposalBoard.Correlation
import ProposalBoard.Error
import ProposalBoard.NextAction
import ProposalBoard.TimeLine
import ProposalBoard.Vote.Breakdown

/-!
# Rows

The rows of a board: one for each proposal, newest first, with everything that is shown for it.
-/

namespace ProposalBoard

/-- What is shown for a proposal. -/
structure Row where
  id : UInt64
  title : String
  status : DisplayStatus
  label : String
  tone : Tone
  countdown : Option String
  /-- The time line of the primary vote. -/
  timeLine : TimeLine
  /-- The time line of the vote of the second community. -/
  metagovTimeLine : Option TimeLine
  action : Option NextAction
  pollId : Option String
  motionId : Option UInt64
  votes : Breakdown
  /-- The vote of the second community. -/
  metagovVotes : Option Breakdown

namespace Board

/-- The configuration of a board, with the first proposal that the federation votes on. -/
def effectiveConfig (board : Board) (config : Config) : Config :=
  { config with federationThreshold := config.threshold? board.motions }

/-- The poll on a proposal. One that the federation votes on has none. -/
def pollOn? (board : Board) (config : Config) (p : Proposal) : Option Poll :=
  if p.isFederationManaged config then none else p.poll? board.polls

/-- The votes of contracts that a table has at a key, with the tokens of the voters. -/
def attributed (board : Board) (votes : Table UInt64 (List Receipt)) (key : UInt64) :
    List CastVote :=
  ((votes.find? key).getD []).map (Receipt.attribute board.delegates)

/-- The vote of the second community by the poll and the motion on a proposal. -/
def metagovBreakdown (board : Board) (poll : Option Poll) (motion : Option Motion) :
    Option Breakdown :=
  match motion, poll with
  | some m, _ => some (.ofMotion m (board.attributed board.motionVotes m.id))
  | none, some poll =>
    some (.ofPoll poll (pollVoters ((board.pollVotes.find? poll.id).getD []) board.delegates))
  | none, none => none

/-- The row of a proposal, where the configuration is the effective one. -/
def rowOf (board : Board) (config : Config) (phrasing : TimePhrasing) (clock : ChainClock)
    (p : Proposal) : Row :=
  let motion := p.motion? board.motions
  let poll := board.pollOn? config p
  let status := DisplayStatus.resolve p clock.block poll motion config
  let countdown :=
    if status.hasCountdown then Countdown.select p clock status poll motion config else none
  { id := p.id
    title := p.title
    status := status
    label := status.label config.names
    tone := status.tone
    countdown := countdown.map (·.text config.names phrasing clock.now)
    timeLine := .ofProposal p clock config
    metagovTimeLine := TimeLine.ofMetagov clock poll motion config
    action := NextAction.ofStatus p status clock.now
    pollId := poll.map Poll.id
    motionId := motion.map Motion.id
    votes := .ofProposal p (board.attributed board.proposalVotes p.id)
    metagovVotes := board.metagovBreakdown poll motion }

/-- The proposals by descending id. Those with the same id keep their order. -/
def sortedProposals (board : Board) : List Proposal :=
  board.proposals.mergeSort fun p q => q.id ≤ p.id

/-- The rows of a board, where `present` is the present instant. -/
def rows (board : Board) (config : Config) (phrasing : TimePhrasing) (present : Instant) :
    List Row :=
  board.sortedProposals.map
    (board.rowOf (board.effectiveConfig config) phrasing (board.clock present))

/-- The row of the first proposal with an id. -/
def row (board : Board) (id : UInt64) (config : Config) (phrasing : TimePhrasing)
    (present : Instant) : Except Error Row :=
  match board.proposals.find? (·.id = id) with
  | some p => .ok (board.rowOf (board.effectiveConfig config) phrasing (board.clock present) p)
  | none => .error (.proposalNotFound id)

end Board

instance : Codec Row where
  encode r := .obj [
    ("id", encode r.id),
    ("title", encode r.title),
    ("status", encode r.status),
    ("label", encode r.label),
    ("tone", encode r.tone),
    ("countdown", encode r.countdown),
    ("vote_time", encode r.timeLine),
    ("metagov_vote_time", encode r.metagovTimeLine),
    ("action", encode r.action),
    ("snapshot_id", encode r.pollId),
    ("federation_id", encode r.motionId),
    ("votes", encode r.votes),
    ("metagov_votes", encode r.metagovVotes)]
  decode? j := do
    let f ← Json.Fields.ofJson? ["id", "title", "status", "label", "tone", "countdown",
      "vote_time", "metagov_vote_time", "action", "snapshot_id", "federation_id", "votes",
      "metagov_votes"] j
    return {
      id := ← f.required "id"
      title := ← f.required "title"
      status := ← f.required "status"
      label := ← f.required "label"
      tone := ← f.required "tone"
      countdown := ← f.nullable "countdown"
      timeLine := ← f.required "vote_time"
      metagovTimeLine := ← f.nullable "metagov_vote_time"
      action := ← f.nullable "action"
      pollId := ← f.nullable "snapshot_id"
      motionId := ← f.nullable "federation_id"
      votes := ← f.required "votes"
      metagovVotes := ← f.nullable "metagov_votes" }

end ProposalBoard
