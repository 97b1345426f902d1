import ProposalBoard.DisplayStatus.Resolution
import ProposalBoard.Time.ChainClock
import ProposalBoard.Time.Relative

/-!
# Countdown

The instant that is counted down to beside a display status, and its words. There is no countdown
when the instant is unknown.
-/

namespace ProposalBoard

/-- What a countdown announces. -/
inductive Countdown.Kind where
  /-- The primary vote begins. -/
  | starts
  /-- The primary vote ends. -/
  | ends
  /-- The proposal can no longer be executed. -/
  | expires
  /-- The vote of the second community begins. -/
  | metagovStarts
  /-- The vote of the second community ends. -/
  | metagovEnds
  /-- The primary vote ends, and the second community is done. -/
  | primaryEnds
deriving DecidableEq, Repr, Inhabited

/-- An announced event and its instant. -/
structure Countdown where
  kind : Countdown.Kind
  instant : Instant
deriving DecidableEq

/-- Whether an instant is known and before now. -/
def isPast (t : Option Instant) (now : Instant) : Bool :=
  t.any (· < now)

/-- Whether an instant is known and after now. -/
def isAhead (t : Option Instant) (now : Instant) : Bool :=
  t.any (now < ·)

namespace Countdown

/-- The countdown to an instant, if it is known. -/
def toward (kind : Kind) (instant : Option Instant) : Option Countdown :=
  instant.map fun t => ⟨kind, t⟩

/-- The instant at which a queued proposal expires. -/
def expiry? (p : Proposal) (config : Config) : Option Instant :=
  p.eta.bind (·.addSeconds? (config.expiryGraceDays.toInt * 86400))

/-- The countdown of the primary vote by its start and end. -/
def ofPrimary (p : Proposal) (clock : ChainClock) (config : Config) : Option Countdown :=
  let start := clock.blockTime? p.startBlock config.averageBlockSeconds
  let close := clock.blockTime? p.endBlock config.averageBlockSeconds
  if isPast start clock.now && isAhead close clock.now then toward .ends close
  else if isPast close clock.now then toward .expires (expiry? p config)
  else toward .starts start

/-- The countdown of a poll. When the poll is over, the primary vote is waited for. -/
def ofPoll (poll : Poll) (now : Instant) (primaryEnd : Option Instant) : Option Countdown :=
  if isPast poll.startTime? now && isAhead poll.endTime? now then
    toward .metagovEnds poll.endTime?
  else if isPast poll.endTime? now then toward .primaryEnds primaryEnd
  else toward .metagovStarts poll.startTime?

/-- The countdown of a motion by its status and phase. -/
def ofMotion (m : Motion) (clock : ChainClock) (primaryEnd : Option Instant) (config : Config) :
    Option Countdown :=
  let window := m.window config
  let timeOf block := clock.blockTime? block config.averageBlockSeconds
  match m.effectiveStatus, window.phase clock.block with
  | .active, .voting => toward .metagovEnds (timeOf window.executionStartBlock)
  | .active, .executionWindow =>
    if m.quorumMet then toward .expires primaryEnd
    else toward .metagovEnds (timeOf window.endBlock)
  | .active, .notStarted | .active, .ended => toward .metagovStarts (timeOf window.startBlock)
  | .expired, .ended => toward .primaryEnds primaryEnd
  | .expired, _ => toward .metagovStarts (timeOf window.startBlock)
  | _, _ => toward .primaryEnds primaryEnd

/-- The countdown for a proposal that is shown with the given status. -/
def select (p : Proposal) (clock : ChainClock) (status : DisplayStatus) (poll : Option Poll)
    (motion : Option Motion) (config : Config) : Option Countdown :=
  let primaryEnd := clock.blockTime? p.endBlock config.averageBlockSeconds
  match motion, poll, status with
  | some m, _, .metagovActive | some m, _, .metagovClosed | some m, _, .metagovAwaitingExecution =>
    ofMotion m clock primaryEnd config
  | none, some poll, .metagovActive | none, some poll, .metagovClosed =>
    ofPoll poll clock.now primaryEnd
  | _, _, _ => ofPrimary p clock config

/-- The words of a countdown in front of its instant. -/
def Kind.caption (names : Names) : Kind → String
  | starts => "Starts "
  | ends => "Ends "
  | expires => "Expires "
  | metagovStarts => names.metagov ++ " Voting Starts "
  | metagovEnds => names.metagov ++ " Voting Ends "
  | primaryEnds => names.primary ++ " Voting Ends "

/-- The words of a countdown. -/
def text (c : Countdown) (names : Names) (phrasing : TimePhrasing) (now : Instant) : String :=
  c.kind.caption names ++ phrasing c.instant now

/-- The name of a kind. -/
def Kind.name : Kind → String
  | starts => "starts"
  | ends => "ends"
  | expires => "expires"
  | metagovStarts => "metagov_starts"
  | metagovEnds => "metagov_ends"
  | primaryEnds => "primary_ends"

/-- The kind with a name. -/
def Kind.ofName? : String → Option Kind
  | "starts" => some starts
  | "ends" => some ends
  | "expires" => some expires
  | "metagov_starts" => some metagovStarts
  | "metagov_ends" => some metagovEnds
  | "primary_ends" => some primaryEnds
  | _ => none

instance : Codec Kind := .ofNames Kind.name Kind.ofName?

instance : Codec Countdown where
  encode c := .obj [("kind", encode c.kind), ("at", encode c.instant)]
  decode? j := do
    let f ← Json.Fields.ofJson? ["kind", "at"] j
    return { kind := ← f.required "kind", instant := ← f.required "at" }

end Countdown

end ProposalBoard
