/-!
# JSON trees

The values that a JSON text denotes. Members of an object keep their order and their repetitions,
since a reader of records has to see both. An integer literal that fits a 64-bit word is an
integer; minus zero and every other number is a double.
-/

namespace ProposalBoard

/-- A JSON value. -/
inductive Json where
  | null
  | bool (b : Bool)
  | int (n : Int)
  | real (x : Float)
  | str (s : String)
  | arr (items : List Json)
  | obj (members : List (String × Json))
  /-- An object with a key that is written with an escape. It is read like any other object, except
  where the keys are numbers, since numbers are written without escapes. -/
  | escapedObj (members : List (String × Json))
  /-- A well-formed literal that denotes no value: a string with an unpaired surrogate escape, or
  an object with such a string among its keys. It may be skipped over but not read. -/
  | unreadable
deriving Inhabited

/-- Values with a written form as a JSON tree. -/
class Codec (α : Type) where
  /-- The written form. -/
  encode : α → Json
  /-- Reads a written form, the one of `encode` or another that is accepted. -/
  decode? : Json → Option α

export Codec (encode decode?)

namespace Json

/-- The members of an object. -/
def members? : Json → Option (List (String × Json))
  | .obj members | .escapedObj members => some members
  | _ => none

/-- The double that a number denotes, if it is finite. -/
def float? : Json → Option Float
  | .int n => let x := Float.ofInt n; if x.isFinite then some x else none
  | .real x => if x.isFinite then some x else none
  | _ => none

/-- A number that is an integer within the given bounds. -/
def intWithin? (least greatest : Int) : Json → Option Int
  | .int n => if least ≤ n ∧ n ≤ greatest then some n else none
  | _ => none

/-- The name that a plain alternative is written as: a string, or an object that has the name as
its only key, with null for its value. -/
def name? : Json → Option String
  | .str s => some s
  | .obj [(s, .null)] | .escapedObj [(s, .null)] => some s
  | _ => none

end Json

/-- The written form of a type of plain alternatives, each written as its name. -/
@[reducible] def Codec.ofNames {α : Type} (name : α → String) (ofName? : String → Option α) :
    Codec α where
  encode a := .str (name a)
  decode? j := j.name?.bind ofName?

/-! ## Written forms of the basic types -/

instance : Codec Bool where
  encode := .bool
  decode?
    | .bool b => some b
    | _ => none

instance : Codec String where
  encode := .str
  decode?
    | .str s => some s
    | _ => none

instance : Codec UInt64 where
  encode n := .int n.toNat
  decode? j := (j.intWithin? 0 (UInt64.size - 1)).map fun n => .ofNat n.toNat

instance : Codec UInt8 where
  encode n := .int n.toNat
  decode? j := (j.intWithin? 0 (UInt8.size - 1)).map fun n => .ofNat n.toNat

instance : Codec Int64 where
  encode n := .int n.toInt
  decode? j := (j.intWithin? Int64.minValue.toInt Int64.maxValue.toInt).map .ofInt

/-- A double that is not finite has no number for it and is written as null. -/
instance : Codec Float where
  encode x := if x.isFinite then .real x else .null
  decode? := Json.float?

instance {α : Type} [Codec α] : Codec (Option α) where
  encode
    | some a => encode a
    | none => .null
  decode?
    | .null => some none
    | j => (decode? j).map some

instance {α : Type} [Codec α] : Codec (List α) where
  encode as := .arr (as.map encode)
  decode?
    | .arr items => items.mapM decode?
    | _ => none

end ProposalBoard
