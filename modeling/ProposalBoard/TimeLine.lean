import ProposalBoard.Countdown

/-!
# Time line

The line that tells when a vote starts or ends: its start until the vote opens, and its end from
then on.
-/

namespace ProposalBoard

/-- The caption of a time line. -/
inductive TimeLine.Caption where
  | starts
  | ends
  /-- A poll is open. -/
  | pollEnds
  | ended
deriving DecidableEq, Repr, Inhabited

/-- The caption and the instant of a time line. -/
structure TimeLine where
  caption : TimeLine.Caption
  instant : Option Instant
deriving DecidableEq

namespace TimeLine

/-- The time line of a vote between two instants, with the caption of the open vote. -/
def between (start close : Option Instant) (now : Instant) (whileOpen : Caption) : TimeLine where
  caption :=
    if isPast start now && isAhead close now then whileOpen
    else if isPast close now then .ended
    else .starts
  instant := if isPast start now then close else start

/-- The time line of the primary vote. -/
def ofProposal (p : Proposal) (clock : ChainClock) (config : Config) : TimeLine :=
  between (clock.blockTime? p.startBlock config.averageBlockSeconds)
    (clock.blockTime? p.endBlock config.averageBlockSeconds) clock.now .ends

/-- The time line of a motion. -/
def ofMotion (m : Motion) (clock : ChainClock) (config : Config) : TimeLine :=
  between (clock.blockTime? m.startBlock config.averageBlockSeconds)
    (clock.blockTime? m.endBlock config.averageBlockSeconds) clock.now .ends

/-- The time line of a poll. -/
def ofPoll (poll : Poll) (now : Instant) : TimeLine :=
  between poll.startTime? poll.endTime? now .pollEnds

/-- The time line of the vote of the second community, if there is one. -/
def ofMetagov (clock : ChainClock) (poll : Option Poll) (motion : Option Motion)
    (config : Config) : Option TimeLine :=
  match motion, poll with
  | some m, _ => some (ofMotion m clock config)
  | none, some poll => some (ofPoll poll clock.now)
  | none, none => none

/-- The words of a caption. -/
def Caption.text : Caption → String
  | starts => "Starts"
  | ends => "Ends"
  | pollEnds => "Snapshot Ends"
  | ended => "Ended"

/-- The name of a caption. -/
def Caption.name : Caption → String
  | starts => "starts"
  | ends => "ends"
  | pollEnds => "snapshot_ends"
  | ended => "ended"

/-- The caption with a name. -/
def Caption.ofName? : String → Option Caption
  | "starts" => some starts
  | "ends" => some ends
  | "snapshot_ends" => some pollEnds
  | "ended" => some ended
  | _ => none

instance : Codec Caption := .ofNames Caption.name Caption.ofName?

instance : Codec TimeLine where
  encode t := .obj [("kind", encode t.caption), ("at", encode t.instant)]
  decode? j := do
    let f ← Json.Fields.ofJson? ["kind", "at"] j
    return { caption := ← f.required "kind", instant := ← f.nullable "at" }

end TimeLine

end ProposalBoard
