import Mathlib.Tactic.Lemma
import ProposalBoard.Proofs.NumberLiteral
import ProposalBoard.Proofs.StringLiteral

/-!
# Texts of trees

A tree is read back from its text, however deep it is and whatever its strings hold, if the text
says all about it (`Json.Lossless`): it has no doubles, its integers fit a word, and its keys need
no escapes. The parts are read one after the other, each from where its container stands
(`Json.IsReadBack`).
-/

namespace ProposalBoard.Json

variable {s rest : List Char} {depth fuel : Nat}

/-! ## White space -/

/-- The characters that are skipped between tokens. -/
def isSpace (c : Char) : Bool :=
  c = ' ' || c = '\t' || c = '\n' || c = '\r'

/-- Nothing is skipped in front of a character that is no white space. -/
lemma skip_cons_of_not_isSpace {c : Char} (h : isSpace c = false) : skip (c :: s) = c :: s :=
  List.dropWhile_cons_of_neg (by rw [← isSpace, h]; decide)

/-- A line break and its indentation are white space. -/
lemma isSpace_of_mem_newline {c : Char} (h : c ∈ newline depth) : isSpace c = true := by
  rcases List.mem_cons.mp h with rfl | h
  · rfl
  · rw [(List.mem_replicate.mp h).2]
    rfl

/-- A line break and its indentation are skipped. -/
lemma skip_newline_append (depth : Nat) (s : List Char) : skip (newline depth ++ s) = skip s :=
  List.dropWhile_append_of_pos fun _ => isSpace_of_mem_newline

/-- No number begins with white space. -/
lemma isSpace_eq_false_of_beginsNumber {c : Char} (h : beginsNumber c = true) :
    isSpace c = false := by
  rw [Bool.eq_false_iff]
  intro hspace
  simp only [isSpace, Bool.or_eq_true, decide_eq_true_iff] at hspace
  rcases hspace with ((rfl | rfl) | rfl) | rfl <;> cases h

/-- A value that begins as numbers do is read as a number. -/
lemma readValue_of_beginsNumber {c : Char} {cs : List Char} (hs : skip s = c :: cs)
    (hc : beginsNumber c = true) : readValue (fuel + 1) s = readNumber (c :: cs) := by
  rw [readValue, hs]
  split
  case h_7 => rfl
  all_goals
    -- all other values begin with a character of their own
    next heq =>
      cases heq
      cases hc

/-! ## Trees -/

/-- The trees of which nothing is lost in their texts. -/
inductive Lossless : Json → Prop where
  | null : Lossless .null
  | bool (b : Bool) : Lossless (.bool b)
  | int {k : Int} : k.natAbs < UInt64.size → Lossless (.int k)
  | str (text : String) : Lossless (.str text)
  | arr {items : List Json} : (∀ item ∈ items, Lossless item) → Lossless (.arr items)
  | obj {members : List (String × Json)} :
    (∀ m ∈ members, IsVerbatim m.1) →
    (∀ m ∈ members, Lossless m.2) →
    Lossless (.obj members)

/-- A tree is read from its text at any depth, up to a text that does not go on with it. The length
of its text bounds the recursion. -/
def IsReadBack (j : Json) : Prop :=
  ∀ {depth fuel s rest}, skip s = write depth j ++ rest → (write depth j).length ≤ fuel →
    EndsNumber rest → readValue (fuel + 1) s = some (j, rest)

/-- The text of a tree does not begin with white space. -/
lemma skip_write_append {j : Json} (h : Lossless j) (depth : Nat) (rest : List Char) :
    skip (write depth j ++ rest) = write depth j ++ rest := by
  cases h with
  | null => rfl
  | bool b => cases b <;> rfl
  | @int k _ =>
    obtain ⟨c, cs, hcs, hc⟩ := exists_writeInt_eq_cons k
    rw [write, hcs]
    exact skip_cons_of_not_isSpace (isSpace_eq_false_of_beginsNumber hc)
  | str text => rfl
  | @arr items _ => cases items <;> rfl
  | @obj members _ _ => cases members <;> rfl

/-! ### Arrays -/

/-- The text of the items of an array, from the first one on. -/
def itemsText (depth close : Nat) (item : Json) (items : List Json) (rest : List Char) :
    List Char :=
  write depth item ++ (writeItems depth items ++ (newline close ++ ']' :: rest))

/-- The text of an array is its bracket, a line break and the text of its items. -/
lemma write_arr_append (depth : Nat) (item : Json) (items : List Json) (rest : List Char) :
    write depth (.arr (item :: items)) ++ rest =
      '[' :: (newline (depth + 1) ++ itemsText (depth + 1) depth item items rest) := by
  simp [write, itemsText]

/-- Behind an item, a comma and a line break lead to the text of the next ones. -/
lemma writeItems_cons_append (depth close : Nat) (item : Json) (items : List Json)
    (rest : List Char) :
    writeItems depth (item :: items) ++ (newline close ++ ']' :: rest) =
      ',' :: (newline depth ++ itemsText depth close item items rest) := by
  simp [writeItems, itemsText]

/-- What stands behind an item ends a number. -/
lemma endsNumber_writeItems {items : List Json} {close : Nat} :
    EndsNumber (writeItems depth items ++ (newline close ++ rest)) := by
  cases items with
  | nil => exact endsNumber_newline
  | cons item items => exact endsNumber_comma

section

variable {item : Json} {items : List Json} {close : Nat}

/-- The text of items does not begin with white space. -/
lemma skip_itemsText (h : Lossless item) :
    skip (itemsText depth close item items rest) = itemsText depth close item items rest :=
  skip_write_append h depth _

/-- The first item is not taken for the end of its array. -/
lemma itemsText_ne {t : List Char} (h : Lossless item) :
    itemsText depth close item items rest ≠ ']' :: t := by
  unfold itemsText
  cases h with
  | null => exact nofun
  | bool b => cases b <;> exact nofun
  | @int k _ =>
    obtain ⟨c, cs, hcs, hc⟩ := exists_writeInt_eq_cons k
    rw [write, hcs]
    rintro ⟨⟩
    cases hc
  | str text => exact nofun
  | @arr items _ => cases items <;> exact nofun
  | @obj members _ _ => cases members <;> exact nofun

/-- The items of an array are read one after the other up to its closing bracket. -/
lemma readItems_itemsText (hitems : ∀ i ∈ item :: items, Lossless i ∧ IsReadBack i)
    (hs : skip s = itemsText depth close item items rest)
    (hfuel : (write depth item).length + (writeItems depth items).length ≤ fuel) :
    readItems (fuel + 2) s = some (item :: items, rest) := by
  induction items generalizing item s fuel with
  | nil =>
    obtain ⟨-, hitem⟩ := hitems item List.mem_cons_self
    have hread : readValue (fuel + 1) s = some (item, _) :=
      hitem hs (by omega) endsNumber_writeItems
    simp only [readItems, hread, Option.bind_eq_bind, Option.bind_some, writeItems, List.nil_append,
      skip_newline_append]
    rfl
  | cons i items ih =>
    obtain ⟨⟨-, hitem⟩, hitems⟩ := List.forall_mem_cons.mp hitems
    obtain ⟨hlossless, -⟩ := hitems i List.mem_cons_self
    have hread : readValue (fuel + 1) s = some (item, _) :=
      hitem hs (by omega) endsNumber_writeItems
    simp only [writeItems, List.length_append, List.length_cons] at hfuel
    obtain ⟨fuel, rfl⟩ : ∃ n, fuel = n + 1 := Nat.exists_eq_add_of_le' (by omega)
    have hnext : readItems (fuel + 2) (newline depth ++ itemsText depth close i items rest) =
        some (i :: items, rest) := by
      apply ih hitems
      · rw [skip_newline_append, skip_itemsText hlossless]
      · omega
    rw [readItems, hread]
    simp only [writeItems_cons_append, Option.bind_eq_bind, Option.bind_some]
    rw [skip_cons_of_not_isSpace rfl]
    simp only [hnext, Option.bind_some]

end

/-! ### Objects -/

/-- The text of the members of an object, from the first one on. -/
def membersText (depth close : Nat) (m : String × Json) (members : List (String × Json))
    (rest : List Char) : List Char :=
  quote m.1 ++ (':' :: ' ' :: (write depth m.2 ++
    (writeMembers depth members ++ (newline close ++ '}' :: rest))))

/-- The text of an object is its brace, a line break and the text of its members. -/
lemma write_obj_append (depth : Nat) (m : String × Json) (members : List (String × Json))
    (rest : List Char) :
    write depth (.obj (m :: members)) ++ rest =
      '{' :: (newline (depth + 1) ++ membersText (depth + 1) depth m members rest) := by
  simp [write, membersText]

/-- Behind a member, a comma and a line break lead to the text of the next ones. -/
lemma writeMembers_cons_append (depth close : Nat) (m : String × Json)
    (members : List (String × Json)) (rest : List Char) :
    writeMembers depth (m :: members) ++ (newline close ++ '}' :: rest) =
      ',' :: (newline depth ++ membersText depth close m members rest) := by
  simp [writeMembers, membersText]

/-- What stands behind a member ends a number. -/
lemma endsNumber_writeMembers {members : List (String × Json)} {close : Nat} :
    EndsNumber (writeMembers depth members ++ (newline close ++ rest)) := by
  cases members with
  | nil => exact endsNumber_newline
  | cons m members => exact endsNumber_comma

/-- A member as it is found, with a key without escapes. -/
def asFound (m : String × Json) : FoundKey × Json :=
  (⟨points m.1, false⟩, m.2)

/-- Members whose keys need no escapes make up the usual object. -/
lemma object_map_asFound (members : List (String × Json)) :
    object (members.map asFound) = .obj members := by
  have hkeys : (members.map asFound).mapM (fun m => (text? m.1.points).map (·, m.2)) =
      some members := by
    induction members with
    | nil => rfl
    | cons m members ih =>
      rw [List.map_cons, List.mapM_cons, ih, asFound, text?_points]
      rfl
  have hplain : (members.map asFound).any (·.1.escaped) = false := by
    simp [asFound]
  rw [object, hkeys, hplain]
  rfl

/-- A member that is read back with its key. -/
structure IsMemberReadBack (m : String × Json) : Prop where
  verbatim : IsVerbatim m.1
  lossless : Lossless m.2
  readBack : IsReadBack m.2

section

variable {m : String × Json} {members : List (String × Json)} {close : Nat}

/-- The text of members does not begin with white space. -/
lemma skip_membersText :
    skip (membersText depth close m members rest) = membersText depth close m members rest := by
  rw [membersText, quote_append]
  exact skip_cons_of_not_isSpace rfl

/-- The first member is not taken for the end of its object. -/
lemma membersText_ne {t : List Char} : membersText depth close m members rest ≠ '}' :: t := by
  rw [membersText, quote_append]
  exact nofun

/-- A member is read, and then what is behind it tells whether there are others. -/
lemma readMembers_step {after : List Char} (hm : IsMemberReadBack m)
    (hs : skip s = quote m.1 ++ (':' :: ' ' :: (write depth m.2 ++ after)))
    (hfuel : (write depth m.2).length ≤ fuel) (hafter : EndsNumber after) :
    readMembers (fuel + 2) s =
      match skip after with
      | ',' :: s => (readMembers (fuel + 1) s).bind fun (found, s) => some (asFound m :: found, s)
      | '}' :: s => some ([asFound m], s)
      | _ => none := by
  obtain ⟨hkey, hlossless, hvalue⟩ := hm
  have hread : readValue (fuel + 1) (' ' :: (write depth m.2 ++ after)) = some (m.2, after) :=
    hvalue (skip_write_append hlossless depth after) hfuel hafter
  rw [readMembers, hs, quote_append]
  simp only [readString_literal, hasEscape_eq_false hkey, Option.bind_eq_bind, Option.bind_some]
  rw [skip_cons_of_not_isSpace rfl]
  simp only [hread, Option.bind_some]
  rfl

/-- The members of an object are read one after the other up to its closing brace. -/
lemma readMembers_membersText (hmembers : ∀ d ∈ m :: members, IsMemberReadBack d)
    (hs : skip s = membersText depth close m members rest)
    (hfuel : (write depth m.2).length + (writeMembers depth members).length ≤ fuel) :
    readMembers (fuel + 2) s = some ((m :: members).map asFound, rest) := by
  induction members generalizing m s fuel with
  | nil =>
    have hm := hmembers m List.mem_cons_self
    rw [readMembers_step hm hs (by omega) endsNumber_writeMembers, writeMembers, List.nil_append,
      skip_newline_append, skip_cons_of_not_isSpace rfl]
    rfl
  | cons d members ih =>
    obtain ⟨hm, hmembers⟩ := List.forall_mem_cons.mp hmembers
    rw [readMembers_step hm hs (by omega) endsNumber_writeMembers, writeMembers_cons_append,
      skip_cons_of_not_isSpace rfl]
    simp only [writeMembers, List.length_append, List.length_cons] at hfuel
    obtain ⟨fuel, rfl⟩ : ∃ n, fuel = n + 1 := Nat.exists_eq_add_of_le' (by omega)
    have hnext : readMembers (fuel + 2) (newline depth ++ membersText depth close d members rest) =
        some ((d :: members).map asFound, rest) := by
      apply ih hmembers
      · rw [skip_newline_append, skip_membersText]
      · omega
    simp only [hnext, Option.bind_some]
    rfl

end

/-! ### Values -/

/-- An integer that fits a word is read back. -/
lemma isReadBack_int {k : Int} (hk : k.natAbs < UInt64.size) : IsReadBack (.int k) := by
  intro depth fuel s rest hs _ hrest
  obtain ⟨c, cs, hcs, hc⟩ := exists_writeInt_eq_cons k
  have hread := readNumber_writeInt hk hrest
  rw [write] at hs
  rw [hcs] at hs hread
  rw [readValue_of_beginsNumber hs hc]
  exact hread

/-- Every string is read back. -/
lemma isReadBack_str (text : String) : IsReadBack (.str text) := by
  intro depth fuel s rest hs _ _
  rw [write, quote_append] at hs
  rw [readValue, hs]
  simp only [readString_literal, text?_points, Option.bind_eq_bind, Option.bind_some]
  rfl

/-- An array is read back if its items are. -/
lemma isReadBack_arr {items : List Json} (hitems : ∀ i ∈ items, Lossless i ∧ IsReadBack i) :
    IsReadBack (.arr items) := by
  intro depth fuel s rest hs hfuel _
  cases items with
  | nil =>
    rw [readValue, hs]
    rfl
  | cons item items =>
    obtain ⟨hlossless, -⟩ := hitems item List.mem_cons_self
    simp only [write, List.length_append, List.length_cons] at hfuel
    obtain ⟨fuel, rfl⟩ : ∃ n, fuel = n + 2 := Nat.exists_eq_add_of_le' (by omega)
    have hread : readItems (fuel + 2) (itemsText (depth + 1) depth item items rest) =
        some (item :: items, rest) :=
      readItems_itemsText hitems (skip_itemsText hlossless) (by omega)
    rw [readValue, hs, write_arr_append]
    simp only [skip_newline_append, skip_itemsText hlossless]
    split
    · next heq => exact absurd heq (itemsText_ne hlossless)
    · simp only [hread, Option.bind_eq_bind, Option.bind_some]

/-- An object is read back if its members are. -/
lemma isReadBack_obj {members : List (String × Json)}
    (hmembers : ∀ m ∈ members, IsMemberReadBack m) : IsReadBack (.obj members) := by
  intro depth fuel s rest hs hfuel _
  cases members with
  | nil =>
    rw [readValue, hs]
    rfl
  | cons m members =>
    simp only [write, List.length_append, List.length_cons] at hfuel
    obtain ⟨fuel, rfl⟩ : ∃ n, fuel = n + 2 := Nat.exists_eq_add_of_le' (by omega)
    have hread : readMembers (fuel + 2) (membersText (depth + 1) depth m members rest) =
        some ((m :: members).map asFound, rest) :=
      readMembers_membersText hmembers skip_membersText (by omega)
    rw [readValue, hs, write_obj_append]
    simp only [skip_newline_append, skip_membersText]
    split
    · next heq => exact absurd heq membersText_ne
    · simp only [hread, object_map_asFound, Option.bind_eq_bind, Option.bind_some]

/-- A tree of which nothing is lost in its text is read from the text wherever it stands. -/
lemma Lossless.isReadBack {j : Json} (h : Lossless j) : IsReadBack j := by
  induction h with
  | null =>
    intro depth fuel s rest hs _ _
    rw [readValue, hs]
    rfl
  | bool b =>
    intro depth fuel s rest hs _ _
    rw [readValue, hs]
    cases b <;> rfl
  | int hk => exact isReadBack_int hk
  | str text => exact isReadBack_str text
  | arr hitems ih => exact isReadBack_arr fun i hi => ⟨hitems i hi, ih i hi⟩
  | obj hkeys hvalues ih =>
    exact isReadBack_obj fun m hm => ⟨hkeys m hm, hvalues m hm, ih m hm⟩

/-- A tree of which nothing is lost in its text is read from the text. -/
lemma Lossless.parse?_pretty {j : Json} (h : Lossless j) : parse? j.pretty = some j := by
  have hs : skip (write 0 j) = write 0 j ++ [] := by
    have hskip := skip_write_append h 0 []
    rwa [List.append_nil] at hskip ⊢
  have hread : readValue (2 * (write 0 j).length + 2) (write 0 j) = some (j, []) :=
    h.isReadBack hs (by omega) endsNumber_nil
  simp only [parse?, pretty, String.toList_ofList, hread]
  rfl

end ProposalBoard.Json
