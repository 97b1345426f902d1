import ProposalBoard.Json.Basic
import ProposalBoard.Text.Numeral

/-!
# Tables

Finite tables with their entries in ascending order of the keys, so that two tables with the same
entries are equal. A table is written as an object with one member for each entry; when a key is
repeated there, the last value counts.
-/

namespace ProposalBoard

/-- A finite table with ascending keys. -/
structure Table (κ α : Type) [Ord κ] where
  entries : List (κ × α)
  ascending : entries.Pairwise fun a b => compare a.1 b.1 = .lt

namespace Table

variable {κ α : Type} [Ord κ]

/-- The table without entries. -/
def empty : Table κ α := ⟨[], .nil⟩

instance : EmptyCollection (Table κ α) := ⟨empty⟩

instance : Inhabited (Table κ α) := ⟨empty⟩

/-- Two tables with the same entries are equal. -/
@[ext] theorem ext {s t : Table κ α} (h : s.entries = t.entries) : s = t := by
  cases s; cases t; cases h; rfl

/-- The value at a key. -/
def find? [BEq κ] (t : Table κ α) (key : κ) : Option α :=
  t.entries.lookup key

/-- Puts an entry at its place, in place of one with the same key. -/
def insertEntry (key : κ) (value : α) : List (κ × α) → List (κ × α)
  | [] => [(key, value)]
  | e :: rest =>
    match compare key e.1 with
    | .lt => (key, value) :: e :: rest
    | .eq => (key, value) :: rest
    | .gt => e :: insertEntry key value rest

/-- Insertion brings in no entry but the new one. -/
theorem mem_insertEntry {key : κ} {value : α} {e : κ × α} {entries : List (κ × α)}
    (h : e ∈ insertEntry key value entries) : e = (key, value) ∨ e ∈ entries := by
  induction entries with
  | nil => simpa [insertEntry] using h
  | cons d rest ih =>
    unfold insertEntry at h
    split at h
    · simpa using h
    · rcases List.mem_cons.mp h with h | h
      · exact .inl h
      · exact .inr (List.mem_cons_of_mem _ h)
    · rcases List.mem_cons.mp h with h | h
      · exact .inr (h ▸ List.mem_cons_self)
      · exact (ih h).imp_right (List.mem_cons_of_mem _)

/-- Insertion keeps the keys ascending. -/
theorem pairwise_insertEntry [Std.TransOrd κ] [Std.LawfulEqOrd κ] (key : κ) (value : α)
    {entries : List (κ × α)} (h : entries.Pairwise fun a b => compare a.1 b.1 = .lt) :
    (insertEntry key value entries).Pairwise fun a b => compare a.1 b.1 = .lt := by
  induction entries with
  | nil => simp [insertEntry]
  | cons d rest ih =>
    obtain ⟨hd, hrest⟩ := List.pairwise_cons.mp h
    unfold insertEntry
    split
    · next hlt =>
      refine List.pairwise_cons.mpr ⟨fun e he => ?_, h⟩
      rcases List.mem_cons.mp he with rfl | he
      · exact hlt
      · exact Std.TransCmp.lt_trans hlt (hd e he)
    · next heq =>
      have : key = d.1 := Std.LawfulEqOrd.eq_of_compare heq
      exact List.pairwise_cons.mpr ⟨fun e he => this ▸ hd e he, hrest⟩
    · next hgt =>
      refine List.pairwise_cons.mpr ⟨fun e he => ?_, ih hrest⟩
      rcases mem_insertEntry he with rfl | he
      · exact Std.OrientedCmp.gt_iff_lt.mp hgt
      · exact hd e he

variable [Std.TransOrd κ] [Std.LawfulEqOrd κ]

/-- The table with an entry put in, in place of one with the same key. -/
def insert (t : Table κ α) (key : κ) (value : α) : Table κ α :=
  ⟨insertEntry key value t.entries, pairwise_insertEntry key value t.ascending⟩

/-- The table of a list of entries. Of several with the same key the last counts. -/
def ofList (entries : List (κ × α)) : Table κ α :=
  entries.foldl (fun t e => t.insert e.1 e.2) ∅

end Table

/-- Keys with a written form as the name of a member. -/
class KeyName (κ : Type) where
  /-- The written form. -/
  toName : κ → String
  /-- Reads a written form. -/
  ofName? : String → Option κ
  /-- Whether a key may be written with escapes. -/
  mayEscape : Bool

instance : KeyName String := ⟨id, some, true⟩

/-- A number is written without leading zeros. -/
instance : KeyName UInt64 where
  toName n := String.ofList (Text.digits n.toNat)
  ofName? s :=
    let ds := s.toList
    if ds ≠ [] ∧ ds.all Char.isDigit ∧ (ds.head? = some '0' → ds.length = 1) then
      Text.word? (Text.digitsValue ds)
    else none
  mayEscape := false

/-- The table that the members of an object make up. -/
def Table.ofMembers? {κ α : Type} [Ord κ] [Std.TransOrd κ] [Std.LawfulEqOrd κ] [KeyName κ]
    [Codec α] (members : List (String × Json)) : Option (Table κ α) := do
  let entries ← members.mapM fun m => do
    return (← KeyName.ofName? m.1, ← decode? m.2)
  return Table.ofList entries

instance {κ α : Type} [Ord κ] [Std.TransOrd κ] [Std.LawfulEqOrd κ] [KeyName κ] [Codec α] :
    Codec (Table κ α) where
  encode t := .obj (t.entries.map fun e => (KeyName.toName e.1, encode e.2))
  decode?
    | .obj members => Table.ofMembers? members
    | .escapedObj members =>
      if KeyName.mayEscape κ then Table.ofMembers? members else none
    | _ => none

end ProposalBoard
