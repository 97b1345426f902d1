import ProposalBoard.Names
import ProposalBoard.Proposal

/-!
# Display status

The one status that is shown for a proposal, with its words and its colour.
-/

namespace ProposalBoard

/-- The status shown for a proposal. Those that begin with metagov tell about the vote of the
second community. -/
inductive DisplayStatus where
  | pending
  | active
  | succeeded
  | executed
  | defeated
  | queued
  | cancelled
  | vetoed
  | expired
  | metagovActive
  | metagovClosed
  | metagovPending
  | metagovAwaitingInitiation
  | metagovAwaitingExecution
  | metagovExpired
  | metagovVetoed
  | undetermined
deriving DecidableEq, Repr, Inhabited

/-- The visual weight of a status. -/
inductive Tone where
  | primary
  | closedMetagov
  | success
  | danger
  | secondary
deriving DecidableEq, Repr, Inhabited

namespace DisplayStatus

/-- The status of the primary DAO shown as it is. -/
def ofPrimary : Proposal.Status → DisplayStatus
  | .pending => pending
  | .active => active
  | .canceled => cancelled
  | .defeated => defeated
  | .succeeded => succeeded
  | .queued => queued
  | .expired => expired
  | .executed => executed
  | .vetoed => vetoed
  | .undetermined => undetermined

/-- Whether a countdown is shown beside the status. -/
def hasCountdown : DisplayStatus → Bool
  | pending | active | queued | metagovActive | metagovClosed | metagovAwaitingExecution => true
  | _ => false

/-- The visual weight. -/
def tone : DisplayStatus → Tone
  | pending | active | metagovActive | metagovPending => .primary
  | metagovClosed => .closedMetagov
  | succeeded | executed => .success
  | defeated | vetoed => .danger
  | _ => .secondary

/-- The words shown for the status. -/
def label (names : Names) : DisplayStatus → String
  | pending => "Pending"
  | active => "Active"
  | succeeded => "Succeeded"
  | executed => "Executed"
  | defeated => "Defeated"
  | queued => "Queued"
  | cancelled => "Canceled"
  | vetoed => "Vetoed"
  | expired => "Expired"
  | metagovActive => "Active " ++ names.metagov ++ " Vote"
  | metagovClosed => "Awaiting " ++ names.primary ++ " Vote"
  | metagovPending => "Pending " ++ names.metagov ++ " Vote"
  | metagovAwaitingInitiation => "Ready to start"
  | metagovAwaitingExecution => "Ready to execute"
  | metagovExpired => "Expired " ++ names.metagov ++ " Vote"
  | metagovVetoed => "Vetoed " ++ names.metagov ++ " Vote"
  | undetermined => "Undetermined"

/-- The name of a status. -/
def name : DisplayStatus → String
  | pending => "Pending"
  | active => "Active"
  | succeeded => "Succeeded"
  | executed => "Executed"
  | defeated => "Defeated"
  | queued => "Queued"
  | cancelled => "Cancelled"
  | vetoed => "Vetoed"
  | expired => "Expired"
  | metagovActive => "MetagovActive"
  | metagovClosed => "MetagovClosed"
  | metagovPending => "MetagovPending"
  | metagovAwaitingInitiation => "MetagovAwaitingInitiation"
  | metagovAwaitingExecution => "MetagovAwaitingExecution"
  | metagovExpired => "MetagovExpired"
  | metagovVetoed => "MetagovVetoed"
  | undetermined => "Undetermined"

/-- The status with a name. -/
def ofName? : String → Option DisplayStatus
  | "Pending" => some pending
  | "Active" => some active
  | "Succeeded" => some succeeded
  | "Executed" => some executed
  | "Defeated" => some defeated
  | "Queued" => some queued
  | "Cancelled" => some cancelled
  | "Vetoed" => some vetoed
  | "Expired" => some expired
  | "MetagovActive" => some metagovActive
  | "MetagovClosed" => some metagovClosed
  | "MetagovPending" => some metagovPending
  | "MetagovAwaitingInitiation" => some metagovAwaitingInitiation
  | "MetagovAwaitingExecution" => some metagovAwaitingExecution
  | "MetagovExpired" => some metagovExpired
  | "MetagovVetoed" => some metagovVetoed
  | "Undetermined" => some undetermined
  | _ => none

instance : Codec DisplayStatus := .ofNames name ofName?

end DisplayStatus

namespace Tone

/-- The name of a tone. -/
def name : Tone → String
  | primary => "primary"
  | closedMetagov => "closed_metagov"
  | success => "success"
  | danger => "danger"
  | secondary => "secondary"

/-- The tone with a name. -/
def ofName? : String → Option Tone
  | "primary" => some primary
  | "closed_metagov" => some closedMetagov
  | "success" => some success
  | "danger" => some danger
  | "secondary" => some secondary
  | _ => none

instance : Codec Tone := .ofNames name ofName?

end Tone

end ProposalBoard
