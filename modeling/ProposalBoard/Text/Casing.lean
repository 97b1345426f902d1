import ProposalBoard.Text.Blank
import ProposalBoard.Text.Casing.Cased
import ProposalBoard.Text.Casing.Ignorable
import ProposalBoard.Text.Casing.Lowercase

/-!
# Lower case

Lower-casing of whole texts. Three rules go beyond a table of characters: a capital sigma at the
end of a word becomes the final sigma, the capital I with a dot becomes an i and a combining dot,
and everything without a lower-case form stays as it is.
-/

namespace ProposalBoard.Text

/-- Whether a character is a letter with case, or derived from one. -/
def isCased (c : Char) : Bool :=
  inRanges casedRanges c.toNat

/-- Whether a character is skipped when the neighbouring letters are looked up. -/
def isCaseIgnorable (c : Char) : Bool :=
  inRanges ignorableRanges c.toNat

/-- The lower-case form of a character outside of its context. -/
def lowerChar (c : Char) : List Char :=
  if c = 'İ' then ['i', '\u0307']
  else match lowercaseRuns.find? (·.contains c.toNat) with
    | some run => [Char.ofNat (c.toNat + run.shift).toNat]
    | none => [c]

/-- Whether the first character that is not ignorable is cased. -/
def startsCased (s : List Char) : Bool :=
  match s.dropWhile isCaseIgnorable with
  | c :: _ => isCased c
  | [] => false

/-- Lower-cases a text whose preceding characters are given, nearest first. A capital sigma is
final when a letter stands before it and none after it. -/
def lowerAfter (before : List Char) : List Char → List Char
  | [] => []
  | c :: rest =>
    let lowered :=
      if c = 'Σ' then
        if startsCased before && !startsCased rest then ['ς'] else ['σ']
      else lowerChar c
    lowered ++ lowerAfter (c :: before) rest

/-- The lower-case form of a text. -/
def lowercase (s : String) : String :=
  String.ofList (lowerAfter [] s.toList)

end ProposalBoard.Text
