import ProposalBoard.Config
import ProposalBoard.Text.Numeral

/-!
# Errors

Why a command fails. Resolving a board never does; only files and ids can be wrong.
-/

namespace ProposalBoard

/-- A cause of failure. -/
inductive Error where
  /-- A file is missing, is no text, or cannot be written. -/
  | file (path : String)
  /-- A text is not the record that it should be. -/
  | malformed
  | invalidConfig (fault : Config.Fault)
  | proposalNotFound (id : UInt64)
deriving DecidableEq

/-- The words for a cause of failure. -/
def Error.message : Error → String
  | file path => "I/O error: " ++ path
  | malformed => "Invalid JSON"
  | invalidConfig fault => "Invalid configuration: " ++ fault.message
  | proposalNotFound id => "Proposal not found: " ++ String.ofList (Text.digits id.toNat)

end ProposalBoard
