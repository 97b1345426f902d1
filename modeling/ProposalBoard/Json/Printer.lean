import ProposalBoard.Decimal.Layout
import ProposalBoard.Json.Basic

/-!
# Printing JSON

The written form of a tree over several lines: every item and member on a line of its own, two
spaces further in than its container, and nothing between the brackets of an empty container.
-/

namespace ProposalBoard.Json

/-- Doubles from `0.00001` up to sixteen digits before the point are written without exponent. -/
def realLayout : Decimal.Layout where
  plainFrom := -5
  plainTo := 15

/-- The letter that stands behind a backslash for a character, if it has one. -/
def escapeLetter? : Char → Option Char
  | '"' => some '"'
  | '\\' => some '\\'
  | '\x08' => some 'b'
  | '\x0c' => some 'f'
  | '\n' => some 'n'
  | '\r' => some 'r'
  | '\t' => some 't'
  | _ => none

/-- A character inside a string literal. The control characters without a letter of their own are
written with four hexadecimal digits. -/
def escapeChar (c : Char) : List Char :=
  match escapeLetter? c with
  | some letter => ['\\', letter]
  | none =>
    if c.toNat < 0x20 then
      ['\\', 'u', '0', '0', Nat.digitChar (c.toNat / 16), Nat.digitChar (c.toNat % 16)]
    else [c]

/-- A string literal. -/
def quote (s : String) : List Char :=
  '"' :: s.toList.flatMap escapeChar ++ ['"']

/-- An integer literal. -/
def writeInt (n : Int) : List Char :=
  if n < 0 then '-' :: Text.digits n.natAbs else Text.digits n.natAbs

/-- The start of a new line at the given depth. -/
def newline (depth : Nat) : List Char :=
  '\n' :: List.replicate (2 * depth) ' '

mutual

/-- A value whose container stands at the given depth. -/
def write (depth : Nat) : Json → List Char
  | .null => "null".toList
  | .bool true => "true".toList
  | .bool false => "false".toList
  | .int n => writeInt n
  | .real x => realLayout.writeFloat x
  | .str s => quote s
  | .arr [] => "[]".toList
  | .arr (item :: items) =>
    '[' :: newline (depth + 1) ++ write (depth + 1) item ++ writeItems (depth + 1) items
      ++ newline depth ++ [']']
  | .obj [] | .escapedObj [] => "{}".toList
  | .obj ((key, value) :: members) | .escapedObj ((key, value) :: members) =>
    '{' :: newline (depth + 1) ++ quote key ++ ": ".toList ++ write (depth + 1) value
      ++ writeMembers (depth + 1) members ++ newline depth ++ ['}']
  | .unreadable => "null".toList

/-- The items after the first one. -/
def writeItems (depth : Nat) : List Json → List Char
  | [] => []
  | item :: items => ',' :: newline depth ++ write depth item ++ writeItems depth items

/-- The members after the first one. -/
def writeMembers (depth : Nat) : List (String × Json) → List Char
  | [] => []
  | (key, value) :: members =>
    ',' :: newline depth ++ quote key ++ ": ".toList ++ write depth value
      ++ writeMembers depth members

end

/-- The text of a value. -/
def pretty (j : Json) : String :=
  String.ofList (write 0 j)

end ProposalBoard.Json
