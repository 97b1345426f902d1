import ProposalBoard.Json.Basic

/-!
# Records

How records are read from trees. A record is written as an object of its fields or, positionally,
as an array of them in the order of declaration. Unknown members of an object are skipped whatever
their value, and a known one must not be repeated. An array may stop early but holds no more than
the record's fields.
-/

namespace ProposalBoard.Json

/-- The fields found in the written form of a record. -/
structure Fields where
  /-- The members with known names, each name at most once. -/
  members : List (String × Json)
  /-- Whether the record was written as an object. -/
  named : Bool

namespace Fields

/-- The fields of a record that is declared with the given names. -/
def ofJson? (names : List String) : Json → Option Fields
  | .obj members | .escapedObj members =>
    let known := members.filter fun m => names.contains m.1
    if (known.map Prod.fst).Nodup then some ⟨known, true⟩ else none
  | .arr items => if items.length ≤ names.length then some ⟨names.zip items, false⟩ else none
  | _ => none

/-- The written form of a field, if the field is there. -/
def find? (f : Fields) (name : String) : Option Json :=
  f.members.lookup name

variable {α : Type} [Codec α]

/-- A field that has to be there. -/
def required (f : Fields) (name : String) : Option α :=
  (f.find? name).bind decode?

/-- A field that has a value of its own when it is left out. -/
def orElse (f : Fields) (name : String) (fallback : α) : Option α :=
  match f.find? name with
  | some j => decode? j
  | none => some fallback

/-- A field that may be null, and may be left out of an object but not of an array. -/
def nullable (f : Fields) (name : String) : Option (Option α) :=
  match f.find? name with
  | some j => decode? j
  | none => if f.named then some none else none

end Fields

end ProposalBoard.Json
