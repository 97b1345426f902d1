import Mathlib.Tactic.Lemma
import ProposalBoard.Proofs.JsonText
import ProposalBoard.Proofs.WrittenRecords
import ProposalBoard.Storage

/-!
# Configurations in files

A configuration is read from the text that it is saved as, and then checked. So what comes out of a
file is always without faults, and a saved configuration comes out as it was or is turned down for
the first of its faults.
-/

namespace ProposalBoard

open Json (Lossless)

/-! ## The text of a configuration -/

/-- Nothing of a word is lost in its text. -/
lemma lossless_encode_word (n : UInt64) : Lossless (encode n) := by
  refine .int ?_
  have := n.toNat_lt_size
  omega

/-- Nothing of a signed word is lost in its text. -/
lemma lossless_encode_int64 (n : Int64) : Lossless (encode n) := by
  refine .int ?_
  have hleast : -2 ^ 63 ≤ n.toInt := n.le_toInt
  have hgreatest : n.toInt < 2 ^ 63 := n.toInt_lt
  simp only [UInt64.size]
  omega

/-- Nothing of an optional value is lost if nothing of the values is. -/
lemma lossless_encode_option {α : Type} [Codec α] (h : ∀ a : α, Lossless (encode a))
    (o : Option α) : Lossless (encode o) := by
  cases o with
  | none => exact .null
  | some a => exact h a

/-- Nothing of a record is lost if its names need no escapes and nothing of its values is. -/
lemma lossless_encode_record {α : Type} [Codec α] [Record α] {a : α}
    (hnames : ∀ name ∈ (Record.fields a).map Json.Field.name, Json.IsVerbatim name)
    (hvalues : ∀ f ∈ Record.fields a, Lossless f.written) : Lossless (encode a) := by
  rw [Record.encode_eq]
  refine .obj ?_ ?_
  · intro m hm
    obtain ⟨f, hf, rfl⟩ := List.mem_map.mp hm
    exact hnames f.name (List.mem_map_of_mem hf)
  · intro m hm
    obtain ⟨f, hf, rfl⟩ := List.mem_map.mp hm
    exact hvalues f hf

/-- Nothing of the names is lost in their text. -/
lemma Names.lossless_encode (names : Names) : Lossless (encode names) := by
  apply lossless_encode_record
  · show ∀ name ∈ ["primary", "metagov"], Json.IsVerbatim name
    decide
  · exact List.forall_mem_cons.mpr
      ⟨.str _, List.forall_mem_cons.mpr ⟨.str _, List.forall_mem_nil _⟩⟩

/-- Nothing of a configuration is lost in its text. -/
lemma Config.lossless_encode (c : Config) : Lossless (encode c) := by
  apply lossless_encode_record
  · show ∀ name ∈ ["execution_window_blocks", "average_block_time_secs", "federation_id_threshold",
      "expiry_grace_days", "names"], Json.IsVerbatim name
    decide
  · simp only [Record.fields, List.forall_mem_cons]
    exact ⟨lossless_encode_word _, lossless_encode_word _,
      lossless_encode_option lossless_encode_word _, lossless_encode_int64 _,
      c.names.lossless_encode, List.forall_mem_nil _⟩

/-- There are no doubles in a configuration. -/
lemma Config.floatsFinite (c : Config) : FloatsFinite c := by
  have hnames : FloatsFinite c.names :=
    List.forall_mem_cons.mpr ⟨trivial, List.forall_mem_cons.mpr ⟨trivial, List.forall_mem_nil _⟩⟩
  show ∀ f ∈ Record.fields c, f.FloatsFinite
  simp only [Record.fields, List.forall_mem_cons]
  exact ⟨trivial, trivial, fun _ _ => trivial, trivial, hnames, List.forall_mem_nil _⟩

/-- A configuration is read from the text that it is saved as. -/
lemma Config.recordOf_toText (c : Config) : recordOf c.toText = .ok c := by
  obtain ⟨-, hread, -⟩ := readsBack Config c c.floatsFinite
  rw [recordOf, Config.toText, c.lossless_encode.parse?_pretty, Option.bind_some, hread]

/-- A text is read back from its bytes. -/
lemma textOf_toUTF8 (path text : String) : textOf path (some text.toUTF8) = .ok text := by
  have hread : String.fromUTF8? text.toUTF8 = some text := dif_pos text.isValidUTF8
  rw [textOf, Option.bind_some, hread]

/-! ## Faults -/

namespace Config

variable {c : Config}

/-- Blocks take time, and the time for execution does not end before it begins. -/
def IsValid (c : Config) : Prop :=
  1 ≤ c.averageBlockSeconds.toNat ∧ 0 ≤ c.expiryGraceDays.toInt

/-- The outcomes of the check, the block time being looked at first. -/
lemma checked_cases (c : Config) :
    c.averageBlockSeconds.toNat = 0 ∧ c.checked = .error (.invalidConfig .zeroBlockTime) ∨
      (1 ≤ c.averageBlockSeconds.toNat ∧ c.expiryGraceDays.toInt < 0) ∧
        c.checked = .error (.invalidConfig .negativeGrace) ∨
      c.IsValid ∧ c.checked = .ok c := by
  by_cases hblock : c.averageBlockSeconds = 0
  · have hfault : c.fault? = some .zeroBlockTime := if_pos hblock
    exact .inl ⟨congrArg UInt64.toNat hblock, by rw [checked, hfault]⟩
  have hpos : 1 ≤ c.averageBlockSeconds.toNat :=
    Nat.one_le_iff_ne_zero.mpr fun hzero => hblock (UInt64.toNat_inj.mp hzero)
  by_cases hgrace : c.expiryGraceDays < 0
  · have hfault : c.fault? = some .negativeGrace := by rw [fault?, if_neg hblock, if_pos hgrace]
    exact .inr (.inl ⟨⟨hpos, Int64.lt_iff_toInt_lt.mp hgrace⟩, by rw [checked, hfault]⟩)
  · have hfault : c.fault? = none := by rw [fault?, if_neg hblock, if_neg hgrace]
    have hnonneg : 0 ≤ c.expiryGraceDays.toInt :=
      Int.not_lt.mp fun hneg => hgrace (Int64.lt_iff_toInt_lt.mpr hneg)
    exact .inr (.inr ⟨⟨hpos, hnonneg⟩, by rw [checked, hfault]⟩)

/-! ## Loading -/

/-- What is loaded from a text that was saved is the outcome of the check. -/
lemma load_toText (c : Config) (path : String) :
    load path (some c.toText.toUTF8) = c.checked := by
  simp only [load, textOf_toUTF8, recordOf_toText, bind, Except.bind]

/-- Whatever is loaded has passed the check. -/
lemma isValid_of_load {path : String} {content : Option ByteArray}
    (h : load path content = .ok c) : c.IsValid := by
  unfold load at h
  cases htext : textOf path content with
  | error e =>
    rw [htext] at h
    cases h
  | ok text =>
    rw [htext] at h
    change (recordOf text >>= checked) = .ok c at h
    cases hread : (recordOf text : Except Error Config) with
    | error e =>
      rw [hread] at h
      cases h
    | ok found =>
      rw [hread] at h
      change found.checked = .ok c at h
      rcases found.checked_cases with ⟨-, hfault⟩ | ⟨-, hfault⟩ | ⟨hvalid, hok⟩
      · cases hfault.symm.trans h
      · cases hfault.symm.trans h
      · cases hok.symm.trans h
        exact hvalid

/-- A saved configuration is loaded as it was if it is valid, and turned down otherwise: because of
its block time if that is zero, and else because of its grace days, in words that have the name of
the field. Whatever the file holds, only valid configurations are loaded. -/
theorem load_saved_iff :
    (∀ (c : Config) (path : String),
      (load path (some c.toText.toUTF8) = .ok c ↔ c.IsValid) ∧
      (load path (some c.toText.toUTF8) = .error (.invalidConfig .zeroBlockTime) ↔
        c.averageBlockSeconds.toNat = 0) ∧
      (load path (some c.toText.toUTF8) = .error (.invalidConfig .negativeGrace) ↔
        1 ≤ c.averageBlockSeconds.toNat ∧ c.expiryGraceDays.toInt < 0)) ∧
    (Error.invalidConfig .zeroBlockTime).message =
      "Invalid configuration: average_block_time_secs must be greater than zero" ∧
    (Error.invalidConfig .negativeGrace).message =
      "Invalid configuration: expiry_grace_days cannot be negative" ∧
    ∀ (path : String) (content : Option ByteArray) (c : Config),
      load path content = .ok c → c.IsValid := by
  refine ⟨?_, by decide, by decide, fun path content c => isValid_of_load⟩
  intro c path
  rw [load_toText]
  rcases c.checked_cases with ⟨hblock, h⟩ | ⟨⟨hblock, hgrace⟩, h⟩ | ⟨⟨hblock, hgrace⟩, h⟩
  · rw [h]
    refine ⟨⟨nofun, fun hvalid => ?_⟩, ⟨fun _ => hblock, fun _ => rfl⟩, ⟨nofun, fun hlater => ?_⟩⟩
    · exact absurd hvalid.1 (by omega)
    · exact absurd hlater.1 (by omega)
  · rw [h]
    refine ⟨⟨nofun, fun hvalid => ?_⟩, ⟨nofun, fun hzero => ?_⟩,
      ⟨fun _ => ⟨hblock, hgrace⟩, fun _ => rfl⟩⟩
    · exact absurd hvalid.2 (by omega)
    · exact absurd hzero (by omega)
  · rw [h]
    refine ⟨⟨fun _ => ⟨hblock, hgrace⟩, fun _ => rfl⟩, ⟨nofun, fun hzero => ?_⟩,
      ⟨nofun, fun hlater => ?_⟩⟩
    · exact absurd hzero (by omega)
    · exact absurd hlater.2 (by omega)

/-- A configuration whose names have to be escaped. -/
def quoting : Config :=
  { averageBlockSeconds := 1, expiryGraceDays := 0,
    names := ⟨"the \"old\" \\ DAO", "first line\nsecond line \x00 日本"⟩ }

/-- Names with quotes, line breaks and control characters are loaded as they were saved. -/
theorem load_saved_iff_quoting :
    load "metagov.json" (some quoting.toText.toUTF8) = .ok quoting ∧
      1 ≤ quoting.averageBlockSeconds.toNat ∧ 0 ≤ quoting.expiryGraceDays.toInt := by
  obtain ⟨hsaved, -, -, hloaded⟩ := load_saved_iff
  have hload : load "metagov.json" (some quoting.toText.toUTF8) = .ok quoting :=
    (hsaved quoting "metagov.json").1.mpr ⟨by decide, by decide⟩
  exact ⟨hload, hloaded _ _ _ hload⟩

end Config

end ProposalBoard
