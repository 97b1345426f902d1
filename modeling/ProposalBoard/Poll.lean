import ProposalBoard.Json.Record
import ProposalBoard.Time.Instant

/-!
# Polls

A poll is an off-chain vote, free of transaction fees, on a proposal of the primary DAO. The
service that runs it calls it a snapshot proposal. A poll belongs to the proposal whose
transaction hash its body mentions.
-/

namespace ProposalBoard

/-- Where a poll stands. -/
inductive Poll.State where
  | pending
  | active
  | closed
  | unknown
deriving DecidableEq, Repr, Inhabited

/-- An off-chain vote on a primary proposal. -/
structure Poll where
  id : String
  body : String
  state : Poll.State
  /-- The start of the vote in seconds from the start of 1970. -/
  start : Int64
  /-- The end of the vote in seconds from the start of 1970. -/
  close : Int64
  /-- The block at which voting power is measured. -/
  powerBlock : UInt64
  /-- The score of each choice: for, against, abstain. -/
  scores : List Float
  scoresTotal : Float

namespace Poll

/-- The instant at which the vote starts, if it is in range. -/
def startTime? (p : Poll) : Option Instant :=
  Instant.ofSeconds? p.start.toInt

/-- The instant at which the vote ends, if it is in range. -/
def endTime? (p : Poll) : Option Instant :=
  Instant.ofSeconds? p.close.toInt

/-- The score of a choice, zero where the service left it out. -/
def score (p : Poll) (choice : Nat) : Float :=
  p.scores.getD choice 0

/-- The name of a state. -/
def State.name : State → String
  | pending => "pending"
  | active => "active"
  | closed => "closed"
  | unknown => "unknown"

/-- The state with a name. Any other name is unknown. -/
def State.ofName : String → State
  | "pending" => pending
  | "active" => active
  | "closed" => closed
  | _ => unknown

instance : Codec State := .ofNames State.name fun s => some (State.ofName s)

instance : Codec Poll where
  encode p := .obj [
    ("id", encode p.id),
    ("body", encode p.body),
    ("state", encode p.state),
    ("start", encode p.start),
    ("end", encode p.close),
    ("snapshot", encode p.powerBlock),
    ("scores", encode p.scores),
    ("scores_total", encode p.scoresTotal)]
  decode? j := do
    let f ← Json.Fields.ofJson?
      ["id", "body", "state", "start", "end", "snapshot", "scores", "scores_total"] j
    return {
      id := ← f.required "id"
      body := ← f.orElse "body" ""
      state := ← f.orElse "state" .unknown
      start := ← f.orElse "start" 0
      close := ← f.orElse "end" 0
      powerBlock := ← f.orElse "snapshot" 0
      scores := ← f.orElse "scores" []
      scoresTotal := ← f.orElse "scores_total" 0 }

end Poll

end ProposalBoard
