import ProposalBoard.Text.Casing
import ProposalBoard.Vote

/-!
# Attribution

Which tokens stand behind a vote. A vote in a contract is looked up under the voter's address as
it is; where several delegates have the address the last one counts. In a poll the address is
lower-cased first, as those of delegates are, all delegates with it count, and of several votes
with the same address only the first.
-/

namespace ProposalBoard

/-- The tokens behind the votes for a choice, in the order of the votes. -/
def tokensFor (votes : List CastVote) (choice : UInt8) : List String :=
  (votes.filter (·.choice = choice)).flatMap CastVote.tokens

/-- The tokens of the last delegate with an address. -/
def tokensOfDelegate (delegates : List Delegate) (address : String) : List String :=
  ((delegates.reverse.find? (·.id = address)).map Delegate.tokens).getD []

/-- A contract's record of a vote with the voter's tokens. -/
def Receipt.attribute (delegates : List Delegate) (r : Receipt) : CastVote where
  choice := r.support
  tokens := tokensOfDelegate delegates r.voter

/-- The tokens of all delegates whose address is the lower-case form of the given one. -/
def tokensOfAddress (delegates : List Delegate) (address : String) : List String :=
  (delegates.filter (·.id = Text.lowercase address)).flatMap Delegate.tokens

/-- A ballot with the voter's tokens. -/
def Ballot.attribute (delegates : List Delegate) (b : Ballot) : PollVoter where
  voter := b.voter
  power := b.power
  choice := b.choice
  tokens := tokensOfAddress delegates b.voter

/-- The first ballot of every voter, in the order of the ballots. -/
def firstBallots : List Ballot → List Ballot
  | [] => []
  | b :: rest => b :: (firstBallots rest).filter (·.voter ≠ b.voter)

/-- The voters of a poll, each with the first ballot cast under the address. -/
def pollVoters (ballots : List Ballot) (delegates : List Delegate) : List PollVoter :=
  (firstBallots ballots).map (Ballot.attribute delegates)

end ProposalBoard
