import ProposalBoard.Proofs.Digits
import ProposalBoard.Proofs.WrittenForms

/-!
# Tables from their entries

A table is made up again from its entries in whatever order they come, since each insertion only
adds an entry that is not there yet and there is one ascending order of the keys. So a table is read
from the object of its entries with the members in any order.
-/

namespace ProposalBoard

namespace Table

variable {κ α : Type} [Ord κ] {key : κ} {value : α} {entries : List (κ × α)}

/-- Putting in an entry with a new key takes no other away. -/
lemma insertEntry_perm (h : ∀ e ∈ entries, compare key e.1 ≠ .eq) :
    (insertEntry key value entries).Perm ((key, value) :: entries) := by
  induction entries with
  | nil => exact .refl _
  | cons e rest ih =>
    obtain ⟨hne, hrest⟩ := List.forall_mem_cons.mp h
    unfold insertEntry
    split
    · exact .refl _
    · next heq => exact absurd heq hne
    · exact ((ih hrest).cons e).trans (.swap ..)

variable [Std.TransOrd κ]

/-- Ascending keys are all different. -/
lemma distinct_of_ascending (h : entries.Pairwise fun a b => compare a.1 b.1 = .lt) :
    entries.Pairwise fun a b => compare b.1 a.1 ≠ .eq := by
  refine h.imp ?_
  intro a b hlt heq
  rw [Std.OrientedCmp.eq_comm, hlt] at heq
  cases heq

variable [Std.LawfulEqOrd κ] {t : Table κ α}

/-- Putting in entries with new keys, all different, adds just them. -/
lemma foldl_insert_perm (hnew : ∀ e ∈ entries, ∀ e' ∈ t.entries, compare e.1 e'.1 ≠ .eq)
    (hdistinct : entries.Pairwise fun a b => compare b.1 a.1 ≠ .eq) :
    (entries.foldl (fun t e => t.insert e.1 e.2) t).entries.Perm (entries ++ t.entries) := by
  induction entries generalizing t with
  | nil => exact .refl _
  | cons e rest ih =>
    obtain ⟨he, hrest⟩ := List.forall_mem_cons.mp hnew
    obtain ⟨hahead, hdistinct⟩ := List.pairwise_cons.mp hdistinct
    have hinsert : (t.insert e.1 e.2).entries.Perm (e :: t.entries) := insertEntry_perm he
    have hstill : ∀ d ∈ rest, ∀ e' ∈ (t.insert e.1 e.2).entries, compare d.1 e'.1 ≠ .eq := by
      intro d hd e' he'
      rcases List.mem_cons.mp (hinsert.mem_iff.mp he') with rfl | he'
      · exact hahead d hd
      · exact hrest d hd e' he'
    exact (ih hstill hdistinct).trans ((hinsert.append_left rest).trans List.perm_middle)

/-- The entries of a table make up the table in any order. -/
lemma ofList_eq_of_perm (h : entries.Perm t.entries) : ofList entries = t := by
  have hdistinct : entries.Pairwise fun a b => compare b.1 a.1 ≠ .eq := by
    refine h.symm.pairwise (distinct_of_ascending t.ascending) ?_
    intro a b hne
    rwa [ne_eq, Std.OrientedCmp.eq_comm]
  have hperm : (ofList entries).entries.Perm (entries ++ (∅ : Table κ α).entries) :=
    foldl_insert_perm (fun _ _ _ => nofun) hdistinct
  have hentries : (ofList entries).entries.Perm t.entries := by
    refine hperm.trans ?_
    rw [show (∅ : Table κ α).entries = [] from rfl, List.append_nil]
    exact h
  apply Table.ext
  refine hentries.eq_of_pairwise ?_ (ofList entries).ascending t.ascending
  intro a b _ _ hlt hgt
  rw [← Std.OrientedCmp.gt_iff_lt, hlt] at hgt
  cases hgt

end Table

/-- Keys that are read back from their names. -/
class LawfulKeyName (κ : Type) [KeyName κ] : Prop where
  ofName?_toName : ∀ k : κ, KeyName.ofName? (KeyName.toName k) = some k

instance : LawfulKeyName String := ⟨fun _ => rfl⟩

instance : LawfulKeyName UInt64 where
  ofName?_toName n := by
    have hnumeral : Text.digits n.toNat ≠ [] ∧ (Text.digits n.toNat).all Char.isDigit ∧
        ((Text.digits n.toNat).head? = some '0' → (Text.digits n.toNat).length = 1) :=
      ⟨Text.digits_ne_nil _, List.all_eq_true.mpr fun _ => Text.isDigit_of_mem_digits,
        Text.length_digits_of_head?_eq_zero⟩
    simp only [KeyName.ofName?, KeyName.toName, String.toList_ofList]
    rw [if_pos hnumeral, Text.digitsValue_digits, Text.word?_toNat]

section

variable {κ α : Type} [KeyName κ] [Codec α] [Forms α]

/-- A member is written from an entry of a table. -/
def IsEntryForm (e : κ × α) (m : String × Json) : Prop :=
  m.1 = KeyName.toName e.1 ∧ IsForm e.2 m.2

variable [Ord κ] [Std.TransOrd κ] [Std.LawfulEqOrd κ] [LawfulKeyName κ]

/-- The members that are written from entries are read as the table of the entries. -/
lemma Table.ofMembers?_of_forall₂ {entries : List (κ × α)} {members : List (String × Json)}
    (h : List.Forall₂ IsEntryForm entries members) :
    Table.ofMembers? members = some (Table.ofList entries) := by
  have hread : members.mapM (fun m => do
      return ((← KeyName.ofName? m.1 : κ), (← decode? m.2 : α))) = some entries := by
    induction h with
    | nil => rfl
    | @cons e m _ _ hm _ ih =>
      obtain ⟨hname, hform⟩ := hm
      rw [List.mapM_cons, ih, hname, LawfulKeyName.ofName?_toName, Forms.decode?_of_isForm hform]
      rfl
  rw [Table.ofMembers?, hread]
  rfl

/-- A table is written as its entries in any order. Keys that may be written with escapes may stand
in an object that has some. -/
instance : Forms (Table κ α) where
  FloatsFinite t := ∀ e ∈ t.entries, FloatsFinite e.2
  IsForm t j := ∃ entries members, entries.Perm t.entries ∧
    List.Forall₂ IsEntryForm entries members ∧
    (j = .obj members ∨ j = .escapedObj members ∧ KeyName.mayEscape κ = true)
  isForm_encode {t} h := by
    refine ⟨t.entries, _, .refl _, ?_, .inl rfl⟩
    refine List.forall₂_map_right_iff.mpr (List.forall₂_same.mpr ?_)
    intro e he
    exact ⟨rfl, Forms.isForm_encode (h e he)⟩
  decode?_of_isForm := by
    rintro t j ⟨entries, members, hperm, hmembers, hj⟩
    have hread : Table.ofMembers? members = some t := by
      rw [Table.ofMembers?_of_forall₂ hmembers, Table.ofList_eq_of_perm hperm]
    rcases hj with rfl | ⟨rfl, hescape⟩
    · exact hread
    · exact (if_pos hescape).trans hread

end

end ProposalBoard
