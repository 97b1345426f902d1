import ProposalBoard.Json.Number

/-!
# Reading JSON

The tree of a strict JSON text: one value with white space around it. Every reader takes its part
off the front of the text and returns the rest.
-/

namespace ProposalBoard.Json

/-- Drops the white space that may stand between tokens. -/
def skip (s : List Char) : List Char :=
  s.dropWhile fun c => c = ' ' || c = '\t' || c = '\n' || c = '\r'

/-! ## Strings -/

/-- The value of a hexadecimal digit. -/
def hexValue? (c : Char) : Option Nat :=
  if c.isDigit then some (c.toNat - '0'.toNat)
  else if 'a' ≤ c ∧ c ≤ 'f' then some (c.toNat - 'a'.toNat + 10)
  else if 'A' ≤ c ∧ c ≤ 'F' then some (c.toNat - 'A'.toNat + 10)
  else none

/-- The character that a letter behind a backslash stands for. -/
def unescapeLetter? : Char → Option Char
  | '"' => some '"'
  | '\\' => some '\\'
  | '/' => some '/'
  | 'b' => some '\x08'
  | 'f' => some '\x0c'
  | 'n' => some '\n'
  | 'r' => some '\r'
  | 't' => some '\t'
  | _ => none

/-- Reads the rest of a string literal behind its opening quote. The code points come out one by
one, an escaped surrogate still unpaired; those read before come in latest first. -/
def readString (before : List Nat) : List Char → Option (List Nat × List Char)
  | [] => none
  | '"' :: rest => some (before.reverse, rest)
  | '\\' :: 'u' :: a :: b :: c :: d :: rest =>
    match hexValue? a, hexValue? b, hexValue? c, hexValue? d with
    | some a, some b, some c, some d =>
      readString ((((a * 16 + b) * 16 + c) * 16 + d) :: before) rest
    | _, _, _, _ => none
  | '\\' :: letter :: rest =>
    match unescapeLetter? letter with
    | some c => readString (c.toNat :: before) rest
    | none => none
  | c :: rest => if c.toNat < 0x20 then none else readString (c.toNat :: before) rest

/-- Whether a code point is the first half of a surrogate pair. -/
def isHighSurrogate (n : Nat) : Bool :=
  0xD800 ≤ n && n < 0xDC00

/-- Whether a code point is the second half of a surrogate pair. -/
def isLowSurrogate (n : Nat) : Bool :=
  0xDC00 ≤ n && n < 0xE000

/-- The characters of a string whose surrogates all stand in pairs. Those found before come in
latest first. -/
def pairSurrogates? (before : List Char) : List Nat → Option (List Char)
  | [] => some before.reverse
  | [n] =>
    if isHighSurrogate n || isLowSurrogate n then none else some (Char.ofNat n :: before).reverse
  | n :: m :: rest =>
    if isHighSurrogate n then
      if isLowSurrogate m then
        let c := Char.ofNat (0x10000 + (n - 0xD800) * 0x400 + (m - 0xDC00))
        pairSurrogates? (c :: before) rest
      else none
    else if isLowSurrogate n then none
    else pairSurrogates? (Char.ofNat n :: before) (m :: rest)

/-- The text that the code points of a string literal denote. -/
def text? (points : List Nat) : Option String :=
  (pairSurrogates? [] points).map String.ofList

/-! ## Numbers -/

/-- Reads a run of at least one digit. -/
def readDigits (s : List Char) : Option (List Char × List Char) :=
  let ds := s.takeWhile Char.isDigit
  if ds = [] then none else some (ds, s.dropWhile Char.isDigit)

/-- Reads the fraction of a number, if there is one. -/
def readFraction : List Char → Option (Option (List Char) × List Char)
  | '.' :: rest => (readDigits rest).map fun (ds, rest) => (some ds, rest)
  | s => some (none, s)

/-- Reads the sign of an exponent, a missing one counting as plus, and its digits. -/
def readSignedDigits : List Char → Option (Int × List Char)
  | '-' :: rest => (readDigits rest).map fun (ds, rest) => (-(Text.digitsValue ds : Int), rest)
  | s => (readDigits (Text.dropPlus s)).map fun (ds, rest) => ((Text.digitsValue ds : Int), rest)

/-- Reads the exponent of a number, if there is one. -/
def readExponent : List Char → Option (Option Int × List Char)
  | 'e' :: rest | 'E' :: rest => (readSignedDigits rest).map fun (e, rest) => (some e, rest)
  | s => some (none, s)

/-- Reads a number without its sign. A zero in front is followed by no other digit. -/
def readMagnitude (negative : Bool) (s : List Char) : Option (Json × List Char) := do
  let (whole, s) ← readDigits s
  if whole.head? = some '0' ∧ whole.length ≠ 1 then none
  else
    let (fraction, s) ← readFraction s
    let (exponent, s) ← readExponent s
    some (number negative whole fraction exponent, s)

/-- Reads a number. -/
def readNumber : List Char → Option (Json × List Char)
  | '-' :: rest => readMagnitude true rest
  | s => readMagnitude false s

/-! ## Values -/

/-- A key as it is found: its code points, and whether it is written with an escape. -/
structure FoundKey where
  points : List Nat
  escaped : Bool

/-- Whether an escape stands in a string literal, given from behind its opening quote on. -/
def hasEscape (s : List Char) : Bool :=
  (s.takeWhile (· ≠ '"')).contains '\\'

/-- An object with the given members, if all their keys denote texts. -/
def object (members : List (FoundKey × Json)) : Json :=
  match members.mapM fun m => (text? m.1.points).map (·, m.2) with
  | some named => if members.any (·.1.escaped) then .escapedObj named else .obj named
  | none => .unreadable

mutual

/-- Reads a value. The first argument bounds the depth of the recursion. -/
def readValue : Nat → List Char → Option (Json × List Char)
  | 0, _ => none
  | fuel + 1, s =>
    match skip s with
    | 'n' :: 'u' :: 'l' :: 'l' :: rest => some (.null, rest)
    | 't' :: 'r' :: 'u' :: 'e' :: rest => some (.bool true, rest)
    | 'f' :: 'a' :: 'l' :: 's' :: 'e' :: rest => some (.bool false, rest)
    | '"' :: rest => do
      let (points, rest) ← readString [] rest
      some (((text? points).map Json.str).getD .unreadable, rest)
    | '[' :: rest =>
      match skip rest with
      | ']' :: rest => some (.arr [], rest)
      | rest => do
        let (items, rest) ← readItems fuel rest
        some (.arr items, rest)
    | '{' :: rest =>
      match skip rest with
      | '}' :: rest => some (.obj [], rest)
      | rest => do
        let (members, rest) ← readMembers fuel rest
        some (object members, rest)
    | s => readNumber s

/-- Reads the items of an array up to its closing bracket. -/
def readItems : Nat → List Char → Option (List Json × List Char)
  | 0, _ => none
  | fuel + 1, s => do
    let (item, s) ← readValue fuel s
    match skip s with
    | ',' :: s => do
      let (items, s) ← readItems fuel s
      some (item :: items, s)
    | ']' :: s => some ([item], s)
    | _ => none

/-- Reads the members of an object up to its closing brace. -/
def readMembers : Nat → List Char → Option (List (FoundKey × Json) × List Char)
  | 0, _ => none
  | fuel + 1, s =>
    match skip s with
    | '"' :: s => do
      let escaped := hasEscape s
      let (points, s) ← readString [] s
      let key : FoundKey := { points, escaped }
      match skip s with
      | ':' :: s => do
        let (value, s) ← readValue fuel s
        match skip s with
        | ',' :: s => do
          let (members, s) ← readMembers fuel s
          some ((key, value) :: members, s)
        | '}' :: s => some ([(key, value)], s)
        | _ => none
      | _ => none
    | _ => none

end

/-- The tree of a text. Every two steps of the recursion read a character. -/
def parse? (text : String) : Option Json :=
  let s := text.toList
  match readValue (2 * s.length + 2) s with
  | some (j, rest) => if skip rest = [] then some j else none
  | none => none

end ProposalBoard.Json
