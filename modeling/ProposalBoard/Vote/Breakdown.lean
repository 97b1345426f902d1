import ProposalBoard.Motion
import ProposalBoard.Poll
import ProposalBoard.Proposal
import ProposalBoard.Vote.Attribution

/-!
# Breakdown

A vote split by choice: how much each choice got, its share of the whole in per cent, and the
tokens behind it.
-/

namespace ProposalBoard

/-- What a choice got. -/
structure Tally where
  count : Float
  percentage : Float
  tokens : List String

/-- A vote split by choice. -/
structure Breakdown where
  inFavour : Tally
  against : Tally
  abstain : Tally

namespace Breakdown

/-- A count in per cent of a total. Where nothing was counted every share is zero. -/
def percentage (count total : Float) : Float :=
  if 0 < total then count * 100 / total else 0

/-- The breakdown with the given counts and tokens of the choices. -/
def ofCounts (count : Choice → Float) (tokens : Choice → List String) : Breakdown :=
  let total := count .inFavour + count .against + count .abstain
  let tally (c : Choice) : Tally := ⟨count c, percentage (count c) total, tokens c⟩
  ⟨tally .inFavour, tally .against, tally .abstain⟩

/-- The breakdown of a primary vote. -/
def ofProposal (p : Proposal) (votes : List CastVote) : Breakdown :=
  let count : Choice → Float
    | .inFavour => p.forCount.toFloat
    | .against => p.againstCount.toFloat
    | .abstain => p.abstainCount.toFloat
  ofCounts count fun c => tokensFor votes c.supportCode

/-- The breakdown of a motion. -/
def ofMotion (m : Motion) (votes : List CastVote) : Breakdown :=
  let count : Choice → Float
    | .inFavour => m.forCount.toFloat
    | .against => m.againstCount.toFloat
    | .abstain => m.abstainCount.toFloat
  ofCounts count fun c => tokensFor votes c.supportCode

/-- The breakdown of a poll. -/
def ofPoll (poll : Poll) (voters : List PollVoter) : Breakdown :=
  let count : Choice → Float
    | .inFavour => poll.score 0
    | .against => poll.score 1
    | .abstain => poll.score 2
  ofCounts count fun c => (voters.filter (·.choice = c.pollCode)).flatMap PollVoter.tokens

end Breakdown

instance : Codec Tally where
  encode t := .obj [
    ("count", encode t.count),
    ("percentage", encode t.percentage),
    ("token_ids", encode t.tokens)]
  decode? j := do
    let f ← Json.Fields.ofJson? ["count", "percentage", "token_ids"] j
    return {
      count := ← f.required "count"
      percentage := ← f.required "percentage"
      tokens := ← f.required "token_ids" }

instance : Codec Breakdown where
  encode b := .obj [
    ("for_votes", encode b.inFavour),
    ("against_votes", encode b.against),
    ("abstain_votes", encode b.abstain)]
  decode? j := do
    let f ← Json.Fields.ofJson? ["for_votes", "against_votes", "abstain_votes"] j
    return {
      inFavour := ← f.required "for_votes"
      against := ← f.required "against_votes"
      abstain := ← f.required "abstain_votes" }

end ProposalBoard
