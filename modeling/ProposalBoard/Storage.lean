import ProposalBoard.Board.Row
import ProposalBoard.Json.Printer
import ProposalBoard.Json.Reader

/-!
# Storage

Records as they are kept in files. The content of a file is given as its bytes, or as absent.
-/

namespace ProposalBoard

/-- The text of a file at a path. -/
def textOf (path : String) (content : Option ByteArray) : Except Error String :=
  match content.bind String.fromUTF8? with
  | some text => .ok text
  | none => .error (.file path)

/-- The record that a text holds. -/
def recordOf {α : Type} [Codec α] (text : String) : Except Error α :=
  match (Json.parse? text).bind decode? with
  | some a => .ok a
  | none => .error .malformed

/-- The text of a configuration. -/
def Config.toText (c : Config) : String :=
  (encode c).pretty

/-- A configuration without faults. -/
def Config.checked (c : Config) : Except Error Config :=
  match c.fault? with
  | some fault => .error (.invalidConfig fault)
  | none => .ok c

/-- The configuration in a file at a path. -/
def Config.load (path : String) (content : Option ByteArray) : Except Error Config := do
  let text ← textOf path content
  let config : Config ← recordOf text
  config.checked

/-- The board in a file at a path. -/
def Board.load (path : String) (content : Option ByteArray) : Except Error Board := do
  let text ← textOf path content
  recordOf text

end ProposalBoard
