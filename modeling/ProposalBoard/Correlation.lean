import ProposalBoard.DisplayStatus.Resolution
import ProposalBoard.Text.Search

/-!
# Correlation

Which poll and which motion belong to a proposal, and from which proposal on the federation votes.
-/

namespace ProposalBoard

/-- Whether a poll mentions the transaction that created a proposal. Blanks around the hash do not
count, and nothing mentions an empty hash. -/
def Poll.mentions (poll : Poll) (p : Proposal) : Bool :=
  let hash := Text.trim p.transactionHash.toList
  !hash.isEmpty && Text.occursIn hash poll.body.toList

/-- The poll on a proposal: the first that mentions it. -/
def Proposal.poll? (p : Proposal) (polls : List Poll) : Option Poll :=
  polls.find? (·.mentions p)

/-- The motion on a proposal: the first that names its id. -/
def Proposal.motion? (p : Proposal) (motions : List Motion) : Option Motion :=
  motions.find? (·.externalId = some p.id)

/-- The motion with the least id, the first of several. -/
def Motion.earliest? : List Motion → Option Motion
  | [] => none
  | m :: rest =>
    match earliest? rest with
    | some n => if n.id < m.id then some n else some m
    | none => some m

/-- The first proposal that the federation votes on: the configured one, or else the one that the
earliest motion is about, motions about no proposal being left out. -/
def Config.threshold? (config : Config) (motions : List Motion) : Option UInt64 :=
  config.federationThreshold <|>
    (Motion.earliest? (motions.filter (·.externalId.isSome))).bind Motion.externalId

end ProposalBoard
