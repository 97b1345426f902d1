import ProposalBoard.Json.Record

/-!
# Votes

The votes as the contracts and the poll service record them, and the delegates that cast them.
Contracts and poll service number the choices differently.
-/

namespace ProposalBoard

/-- The direction of a vote. -/
inductive Choice where
  | inFavour
  | against
  | abstain
deriving DecidableEq, Repr, Inhabited

/-- A vote with the tokens that stand behind it, and its choice as its source numbers it. -/
structure CastVote where
  choice : UInt8
  tokens : List String
deriving DecidableEq

/-- A vote as a contract records it. -/
structure Receipt where
  voter : String
  support : UInt8
deriving DecidableEq

/-- A delegate and the tokens delegated to it. -/
structure Delegate where
  id : String
  tokens : List String
deriving DecidableEq

/-- A vote as the poll service records it. -/
structure Ballot where
  voter : String
  power : Float
  choice : UInt8

/-- A voter of a poll with the tokens that stand behind the vote. -/
structure PollVoter where
  voter : String
  power : Float
  choice : UInt8
  tokens : List String

namespace Choice

/-- The number of a choice in the contracts. -/
def supportCode : Choice → UInt8
  | against => 0
  | inFavour => 1
  | abstain => 2

/-- The number of a choice in polls. -/
def pollCode : Choice → UInt8
  | inFavour => 1
  | against => 2
  | abstain => 3

/-- The choice with a number in the contracts. -/
def ofSupportCode? (code : UInt8) : Option Choice :=
  if code = 0 then some against
  else if code = 1 then some inFavour
  else if code = 2 then some abstain
  else none

/-- The name of a choice. -/
def name : Choice → String
  | inFavour => "For"
  | against => "Against"
  | abstain => "Abstain"

/-- The choice with a name. -/
def ofName? : String → Option Choice
  | "For" => some inFavour
  | "Against" => some against
  | "Abstain" => some abstain
  | _ => none

instance : Codec Choice := .ofNames name ofName?

end Choice

instance : Codec CastVote where
  encode v := .obj [("choice", encode v.choice), ("representedTokenIds", encode v.tokens)]
  decode? j := do
    let f ← Json.Fields.ofJson? ["choice", "representedTokenIds"] j
    return { choice := ← f.required "choice", tokens := ← f.orElse "representedTokenIds" [] }

instance : Codec Receipt where
  encode r := .obj [("voter", encode r.voter), ("supportDetailed", encode r.support)]
  decode? j := do
    let f ← Json.Fields.ofJson? ["voter", "supportDetailed"] j
    return { voter := ← f.required "voter", support := ← f.required "supportDetailed" }

instance : Codec Delegate where
  encode d := .obj [("id", encode d.id), ("representedTokenIds", encode d.tokens)]
  decode? j := do
    let f ← Json.Fields.ofJson? ["id", "representedTokenIds"] j
    return { id := ← f.required "id", tokens := ← f.orElse "representedTokenIds" [] }

instance : Codec Ballot where
  encode b := .obj [("voter", encode b.voter), ("vp", encode b.power), ("choice", encode b.choice)]
  decode? j := do
    let f ← Json.Fields.ofJson? ["voter", "vp", "choice"] j
    return {
      voter := ← f.required "voter"
      power := ← f.orElse "vp" 0
      choice := ← f.required "choice" }

instance : Codec PollVoter where
  encode v := .obj [
    ("voter", encode v.voter),
    ("vp", encode v.power),
    ("choice", encode v.choice),
    ("tokenIds", encode v.tokens)]
  decode? j := do
    let f ← Json.Fields.ofJson? ["voter", "vp", "choice", "tokenIds"] j
    return {
      voter := ← f.required "voter"
      power := ← f.required "vp"
      choice := ← f.required "choice"
      tokens := ← f.required "tokenIds" }

end ProposalBoard
