import ProposalBoard.Json.Record

/-!
# Names

What the two communities are called in the words shown to users.
-/

namespace ProposalBoard

/-- The names of the two communities. -/
structure Names where
  /-- The DAO whose proposals are voted on. -/
  primary : String := "Nouns"
  /-- The community that votes first and casts its outcome into the primary DAO. -/
  metagov : String := "Lil Nouns"
deriving DecidableEq, Inhabited

instance : Codec Names where
  encode n := .obj [("primary", encode n.primary), ("metagov", encode n.metagov)]
  decode? j := do
    let f ← Json.Fields.ofJson? ["primary", "metagov"] j
    return { primary := ← f.orElse "primary" "Nouns", metagov := ← f.orElse "metagov" "Lil Nouns" }

end ProposalBoard
