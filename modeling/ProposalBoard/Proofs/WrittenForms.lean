import Mathlib.Data.List.Forall2
import Mathlib.Data.List.Nodup
import Mathlib.Tactic.Lemma
import ProposalBoard.Json.Record
import ProposalBoard.Table

/-!
# Written forms

A record is read from more than the object that it is written as. The members may stand in any order
and have others between them, and a field may be left out where it holds what is read in its
absence. `Json.Spells` makes such objects out of the usual one step by step, and each step keeps
what reading depends on (`Json.Spells.legible`). `Forms` gives the written forms of the values of a
type together with the proof that each is read as its value; the forms of a value are made up from
those of its parts, so that records inside others vary in the same way.
-/

namespace ProposalBoard

/-- The written forms of the values of a type. All are read as the value, and the usual form is one
of them. The exception are values with a double that is not finite, for which there is no number. -/
class Forms (α : Type) [Codec α] where
  /-- All doubles in a value are finite. -/
  FloatsFinite : α → Prop
  /-- A tree is a written form of a value. -/
  IsForm : α → Json → Prop
  isForm_encode : ∀ {a}, FloatsFinite a → IsForm a (encode a)
  decode?_of_isForm : ∀ {a j}, IsForm a j → decode? j = some a

export Forms (FloatsFinite IsForm)

/-! ## Single values -/

/-- Values with the usual form only. -/
@[reducible] def Forms.ofEncode {α : Type} [Codec α]
    (h : ∀ a : α, decode? (encode a) = some a) : Forms α where
  FloatsFinite _ := True
  IsForm a j := j = encode a
  isForm_encode _ := rfl
  decode?_of_isForm := by
    rintro a _ rfl
    exact h a

instance : Forms Bool := .ofEncode fun _ => rfl

instance : Forms String := .ofEncode fun _ => rfl

/-- A double is written as a number if it is finite. -/
instance : Forms Float where
  FloatsFinite x := x.isFinite = true
  IsForm x j := x.isFinite = true ∧ j = .real x
  isForm_encode h := ⟨h, if_pos h⟩
  decode?_of_isForm := by
    rintro x _ ⟨h, rfl⟩
    exact if_pos h

/-! ## Parts -/

/-- Types of which no value is written as null. -/
class NeverNull (α : Type) [Codec α] : Prop where
  encode_ne_null : ∀ a : α, encode a ≠ .null

section

variable {α : Type} [Codec α]

/-- What is not null is read as a value. -/
lemma decode?_option_of_ne_null {j : Json} (h : j ≠ .null) :
    (decode? j : Option (Option α)) = (decode? j).map some := by
  cases j with
  | null => exact absurd rfl h
  | _ => rfl

variable [Forms α]

/-- Null stands for no value. -/
instance [NeverNull α] : Forms (Option α) where
  FloatsFinite o := ∀ a ∈ o, FloatsFinite a
  IsForm
    | some a, j => j ≠ .null ∧ IsForm a j
    | none, j => j = .null
  isForm_encode := by
    intro o h
    cases o with
    | none => rfl
    | some a => exact ⟨NeverNull.encode_ne_null a, Forms.isForm_encode (h a rfl)⟩
  decode?_of_isForm := by
    intro o j h
    cases o with
    | none =>
      cases h
      rfl
    | some a =>
      obtain ⟨hnull, hform⟩ := h
      rw [decode?_option_of_ne_null hnull, Forms.decode?_of_isForm hform]
      rfl

/-- What is read one by one from forms of the items of a list are the items. -/
lemma mapM_decode?_of_forall₂ {as : List α} {js : List Json} (h : List.Forall₂ IsForm as js) :
    js.mapM decode? = some as := by
  induction h with
  | nil => rfl
  | cons hform _ ih =>
    rw [List.mapM_cons, Forms.decode?_of_isForm hform, ih]
    rfl

instance : Forms (List α) where
  FloatsFinite as := ∀ a ∈ as, FloatsFinite a
  IsForm as j := ∃ js, j = .arr js ∧ List.Forall₂ IsForm as js
  isForm_encode h := by
    refine ⟨_, rfl, List.forall₂_map_right_iff.mpr (List.forall₂_same.mpr ?_)⟩
    intro a ha
    exact Forms.isForm_encode (h a ha)
  decode?_of_isForm := by
    rintro as _ ⟨js, rfl, h⟩
    exact mapM_decode?_of_forall₂ h

end

/-! ## Records -/

namespace Json

/-- A field of a record with a value in it. -/
structure Field where
  name : String
  /-- The usual form of the value. -/
  written : Json
  FloatsFinite : Prop
  /-- The forms of the value. -/
  IsForm : Json → Prop
  /-- The field holds what is read when it is left out. -/
  IsDefault : Prop
  /-- Reading the field gives the value. -/
  IsRead : Fields → Prop
  isForm_written : FloatsFinite → IsForm written
  isRead_of_isForm : ∀ {found j}, found.find? name = some j → IsForm j → IsRead found
  isRead_of_isDefault : ∀ {found}, found.find? name = none → IsDefault → IsRead found

namespace Field

variable {α : Type} [Codec α] [Forms α]

/-- A field that has to be there. -/
def needed (name : String) (a : α) : Field where
  name := name
  written := encode a
  FloatsFinite := ProposalBoard.FloatsFinite a
  IsForm := ProposalBoard.IsForm a
  IsDefault := False
  IsRead found := found.required name = some a
  isForm_written := Forms.isForm_encode
  isRead_of_isForm := by
    intro found j hfind hform
    rw [Fields.required, hfind]
    exact Forms.decode?_of_isForm hform
  isRead_of_isDefault _ := False.elim

/-- A field that may be left out where it holds a default. -/
def defaulted (name : String) (default a : α) : Field where
  name := name
  written := encode a
  FloatsFinite := ProposalBoard.FloatsFinite a
  IsForm := ProposalBoard.IsForm a
  IsDefault := a = default
  IsRead found := found.orElse name default = some a
  isForm_written := Forms.isForm_encode
  isRead_of_isForm := by
    intro found j hfind hform
    rw [Fields.orElse, hfind]
    exact Forms.decode?_of_isForm hform
  isRead_of_isDefault := by
    intro found hfind hdefault
    rw [Fields.orElse, hfind, hdefault]

variable {name : String} {default a : α} {found : Fields}

/-- A field that has to be there has the name that it was given. -/
@[simp] lemma needed_name : (needed name a).name = name :=
  rfl

/-- A field with a default has the name that it was given. -/
@[simp] lemma defaulted_name : (defaulted name default a).name = name :=
  rfl

/-- A field that has to be there is read as a required one. -/
@[simp] lemma isRead_needed_iff : (needed name a).IsRead found ↔ found.required name = some a :=
  .rfl

/-- A field with a default is read as that where it is missing. -/
@[simp] lemma isRead_defaulted_iff :
    (defaulted name default a).IsRead found ↔ found.orElse name default = some a :=
  .rfl

/-- The usual member for a field. -/
def member (f : Field) : String × Json :=
  (f.name, f.written)

/-- A member has the name of a field and a form of its value. -/
def IsWrittenAs (f : Field) (m : String × Json) : Prop :=
  m.1 = f.name ∧ f.IsForm m.2

end Field

/-- The members of the objects that a record with the given fields is written as: those of the
fields, in any order, with any others put in, and without some of those with a default. -/
inductive Spells (fields : List Field) : List (String × Json) → Prop where
  | inFull {members} :
    List.Forall₂ Field.IsWrittenAs fields members →
    Spells fields members
  | reordered {members members'} :
    Spells fields members →
    members.Perm members' →
    Spells fields members'
  | unknownAdded {m members} :
    Spells fields members →
    (∀ f ∈ fields, m.1 ≠ f.name) →
    Spells fields (m :: members)
  | defaultLeftOut {f m members} :
    Spells fields (m :: members) →
    f ∈ fields →
    m.1 = f.name →
    f.IsDefault →
    Spells fields members

/-- Whether a member has the name of a field. -/
def isKnown (fields : List Field) (m : String × Json) : Bool :=
  (fields.map Field.name).contains m.1

/-- What reading a record depends on: no known name is repeated, and each field has a form of its
value among the members or is missing and holds its default. -/
structure Legible (fields : List Field) (members : List (String × Json)) : Prop where
  nodup : ((members.filter (isKnown fields)).map Prod.fst).Nodup
  found : ∀ f ∈ fields, (∃ j, (f.name, j) ∈ members ∧ f.IsForm j) ∨
    ((∀ m ∈ members, m.1 ≠ f.name) ∧ f.IsDefault)

variable {fields : List Field} {members members' : List (String × Json)} {m : String × Json}

/-- A member is known if one of the fields has its name. -/
lemma isKnown_iff : isKnown fields m = true ↔ ∃ f ∈ fields, m.1 = f.name := by
  simp [isKnown, eq_comm]

/-- Members that are written from fields have their names in the same order. -/
lemma map_fst_of_forall₂ (h : List.Forall₂ Field.IsWrittenAs fields members) :
    members.map Prod.fst = fields.map Field.name := by
  induction h with
  | nil => rfl
  | cons hm _ ih => rw [List.map_cons, List.map_cons, hm.1, ih]

/-- Among members that are written from fields, there is one for each field. -/
lemma exists_mem_of_forall₂ {f : Field} (h : List.Forall₂ Field.IsWrittenAs fields members)
    (hf : f ∈ fields) : ∃ j, (f.name, j) ∈ members ∧ f.IsForm j := by
  induction h with
  | nil => cases hf
  | cons hm _ ih =>
    rcases List.mem_cons.mp hf with rfl | hf
    · exact ⟨_, hm.1 ▸ List.mem_cons_self, hm.2⟩
    · obtain ⟨j, hj, hform⟩ := ih hf
      exact ⟨j, List.mem_cons_of_mem _ hj, hform⟩

/-- Members that are written from fields are legible. -/
lemma legible_of_forall₂ (hnames : (fields.map Field.name).Nodup)
    (h : List.Forall₂ Field.IsWrittenAs fields members) : Legible fields members := by
  refine ⟨?_, fun f hf => .inl (exists_mem_of_forall₂ h hf)⟩
  refine List.Sublist.nodup ?_ hnames
  rw [← map_fst_of_forall₂ h]
  exact List.filter_sublist.map _

/-- Legible members are legible in any order. -/
lemma Legible.perm (h : Legible fields members) (hperm : members.Perm members') :
    Legible fields members' := by
  refine ⟨((hperm.filter _).map _).nodup h.nodup, ?_⟩
  intro f hf
  rcases h.found f hf with ⟨j, hj, hform⟩ | ⟨hmissing, hdefault⟩
  · exact .inl ⟨j, hperm.mem_iff.mp hj, hform⟩
  · exact .inr ⟨fun m hm => hmissing m (hperm.mem_iff.mpr hm), hdefault⟩

/-- Legible members stay so when an unknown one is put in. -/
lemma Legible.cons_unknown (h : Legible fields members) (hm : ∀ f ∈ fields, m.1 ≠ f.name) :
    Legible fields (m :: members) := by
  have hunknown : ¬isKnown fields m = true := by
    rw [isKnown_iff]
    rintro ⟨f, hf, hname⟩
    exact hm f hf hname
  refine ⟨?_, ?_⟩
  · rw [List.filter_cons_of_neg hunknown]
    exact h.nodup
  · intro f hf
    rcases h.found f hf with ⟨j, hj, hform⟩ | ⟨hmissing, hdefault⟩
    · exact .inl ⟨j, List.mem_cons_of_mem _ hj, hform⟩
    · exact .inr ⟨List.forall_mem_cons.mpr ⟨hm f hf, hmissing⟩, hdefault⟩

/-- Leaving out the member of a field leaves no other with its name. -/
lemma Legible.of_cons {f : Field} (h : Legible fields (m :: members)) (hf : f ∈ fields)
    (hname : m.1 = f.name) (hdefault : f.IsDefault) (hnames : (fields.map Field.name).Nodup) :
    Legible fields members := by
  have hknown : isKnown fields m = true := isKnown_iff.mpr ⟨f, hf, hname⟩
  have hnodup := h.nodup
  rw [List.filter_cons_of_pos hknown, List.map_cons, List.nodup_cons] at hnodup
  obtain ⟨hfresh, hrest⟩ := hnodup
  have hgone : ∀ m' ∈ members, m'.1 ≠ m.1 := by
    intro m' hm' heq
    apply hfresh
    have hknown' : isKnown fields m' = true := isKnown_iff.mpr ⟨f, hf, heq.trans hname⟩
    exact List.mem_map.mpr ⟨m', List.mem_filter.mpr ⟨hm', hknown'⟩, heq⟩
  refine ⟨hrest, ?_⟩
  intro g hg
  by_cases hsame : g.name = f.name
  · -- names of fields are different, so this is the field that is left out
    obtain rfl : g = f := List.inj_on_of_nodup_map hnames hg hf hsame
    exact .inr ⟨fun m' hm' => hname ▸ hgone m' hm', hdefault⟩
  · rcases h.found g hg with ⟨j, hj, hform⟩ | ⟨hmissing, hgdefault⟩
    · rcases List.mem_cons.mp hj with rfl | hj
      · exact absurd hname hsame
      · exact .inl ⟨j, hj, hform⟩
    · exact .inr ⟨fun m' hm' => hmissing m' (List.mem_cons_of_mem _ hm'), hgdefault⟩

/-- However the object of a record is changed by the steps, it stays legible. -/
lemma Spells.legible (h : Spells fields members) (hnames : (fields.map Field.name).Nodup) :
    Legible fields members := by
  induction h with
  | inFull h => exact legible_of_forall₂ hnames h
  | reordered _ hperm ih => exact ih.perm hperm
  | unknownAdded _ hm ih => exact ih.cons_unknown hm
  | defaultLeftOut _ hf hname hdefault ih => exact ih.of_cons hf hname hdefault hnames

/-- The usual members spell the fields, if all doubles are finite. -/
lemma spells_map_member (h : ∀ f ∈ fields, f.FloatsFinite) :
    Spells fields (fields.map Field.member) := by
  refine .inFull (List.forall₂_map_right_iff.mpr (List.forall₂_same.mpr ?_))
  intro f hf
  exact ⟨rfl, f.isForm_written (h f hf)⟩

/-- Where no key is repeated, each member is found by its key. -/
lemma lookup_of_mem {key : String} {j : Json} (hnodup : (members.map Prod.fst).Nodup)
    (hmem : (key, j) ∈ members) : members.lookup key = some j := by
  induction members with
  | nil => cases hmem
  | cons m members ih =>
    rw [List.map_cons, List.nodup_cons] at hnodup
    obtain ⟨hfresh, hnodup⟩ := hnodup
    rcases List.mem_cons.mp hmem with rfl | hmem
    · exact List.lookup_cons_self
    · have hne : key ≠ m.1 := by
        rintro rfl
        exact hfresh (List.mem_map.mpr ⟨_, hmem, rfl⟩)
      rw [List.lookup_cons, beq_false_of_ne hne]
      exact ih hnodup hmem

/-- The fields of a legible object are found, and each is read as its value. -/
lemma Legible.read {j : Json} (h : Legible fields members) (hj : j.members? = some members) :
    ∃ found, Fields.ofJson? (fields.map Field.name) j = some found ∧
      ∀ f ∈ fields, f.IsRead found := by
  refine ⟨⟨members.filter (isKnown fields), true⟩, ?_, ?_⟩
  · have hobject : Fields.ofJson? (fields.map Field.name) j =
        if ((members.filter (isKnown fields)).map Prod.fst).Nodup then
          some ⟨members.filter (isKnown fields), true⟩ else none := by
      cases j <;> cases hj <;> rfl
    rw [hobject, if_pos h.nodup]
  · intro f hf
    rcases h.found f hf with ⟨value, hmem, hform⟩ | ⟨hmissing, hdefault⟩
    · have hknown : isKnown fields (f.name, value) = true := isKnown_iff.mpr ⟨f, hf, rfl⟩
      exact f.isRead_of_isForm
        (lookup_of_mem h.nodup (List.mem_filter.mpr ⟨hmem, hknown⟩)) hform
    · refine f.isRead_of_isDefault (List.lookup_eq_none_iff.mpr ?_) hdefault
      intro m hm
      exact bne_iff_ne.mpr (hmissing m (List.mem_of_mem_filter hm)).symm

end Json

/-- A type of records. It is written as the object of its fields, and a value is read whenever all
its fields are. -/
class Record (α : Type) [Codec α] where
  fields : α → List Json.Field
  nodup_names : ∀ a, ((fields a).map Json.Field.name).Nodup
  encode_eq : ∀ a, encode a = .obj ((fields a).map Json.Field.member)
  decode?_eq : ∀ {a j found}, Json.Fields.ofJson? ((fields a).map Json.Field.name) j = some found →
    (∀ f ∈ fields a, f.IsRead found) → decode? j = some a

/-- Every object that spells a record is read as the record, with escapes in its keys or without. -/
lemma Record.decode?_of_spells {α : Type} [Codec α] [Record α] {a : α} {j : Json}
    {members : List (String × Json)} (hj : j.members? = some members)
    (h : Json.Spells (Record.fields a) members) : decode? j = some a := by
  obtain ⟨found, hfound, hread⟩ := (h.legible (Record.nodup_names a)).read hj
  exact Record.decode?_eq hfound hread

instance {α : Type} [Codec α] [Record α] : Forms α where
  FloatsFinite a := ∀ f ∈ Record.fields a, f.FloatsFinite
  IsForm a j := ∃ members, j.members? = some members ∧ Json.Spells (Record.fields a) members
  isForm_encode := by
    intro a h
    rw [Record.encode_eq]
    exact ⟨_, rfl, Json.spells_map_member h⟩
  decode?_of_isForm := by
    rintro a j ⟨members, hj, h⟩
    exact Record.decode?_of_spells hj h

end ProposalBoard
