import Mathlib.Data.List.Induction
import Mathlib.Tactic.Lemma
import ProposalBoard.Text.Numeral

/-!
# Texts that stand for a number

The grammar of the numbers that are delivered as texts: digits with at most one plus sign in front
(`Signed`), among blanks on both sides (`Numeral`). The main statement
`readWord?_trim_eq_some_iff` says that reading a text without the blanks around it accepts this
grammar and nothing else, as far as the number fits a word.
-/

namespace ProposalBoard.Text

variable {s core front back ds : List Char} {n : Nat} {w : UInt64}

/-- Digits in their order and the number that they stand for. -/
inductive Decimal : List Char → Nat → Prop where
  | digit {c : Char} :
    c.isDigit = true →
    Decimal [c] (c.toNat - '0'.toNat)
  | snoc {ds : List Char} {n : Nat} {c : Char} :
    Decimal ds n →
    c.isDigit = true →
    Decimal (ds ++ [c]) (10 * n + (c.toNat - '0'.toNat))

/-- Digits that may have a plus sign in front of them. -/
inductive Signed : List Char → Nat → Prop where
  | plain {ds : List Char} {n : Nat} :
    Decimal ds n →
    Signed ds n
  | plus {ds : List Char} {n : Nat} :
    Decimal ds n →
    Signed ('+' :: ds) n

/-- A text stands for a number, blanks at both ends being left aside. -/
def Numeral (s : List Char) (n : Nat) : Prop :=
  ∃ front core back, s = front ++ core ++ back ∧ (∀ c ∈ front, isBlank c = true) ∧
    Signed core n ∧ ∀ c ∈ back, isBlank c = true

/-! ## Blanks -/

/-- Blanks in front of a text are dropped. -/
lemma trimLeft_append (hfront : ∀ c ∈ front, isBlank c = true) :
    trimLeft (front ++ s) = trimLeft s :=
  List.dropWhile_append_of_pos hfront

/-- A text that begins with no blank keeps its front, whatever comes behind it. -/
lemma trimLeft_of_not_isBlank (hne : core ≠ []) (hcore : ∀ c ∈ core, isBlank c = false) :
    trimLeft (core ++ s) = core ++ s := by
  obtain ⟨c, rest, rfl⟩ := List.exists_cons_of_ne_nil hne
  exact trimLeft_cons_of_not_isBlank (hcore c List.mem_cons_self)

/-- What is dropped in front of a text are blanks. -/
lemma exists_trimLeft (s : List Char) :
    ∃ front, s = front ++ trimLeft s ∧ ∀ c ∈ front, isBlank c = true :=
  ⟨s.takeWhile isBlank, List.takeWhile_append_dropWhile.symm,
    List.all_eq_true.mp List.all_takeWhile⟩

/-- What is dropped at the ends of a text are blanks. -/
lemma exists_trim (s : List Char) :
    ∃ front back, s = front ++ trim s ++ back ∧ (∀ c ∈ front, isBlank c = true) ∧
      ∀ c ∈ back, isBlank c = true := by
  obtain ⟨front, hs, hfront⟩ := exists_trimLeft s
  obtain ⟨back, hrest, hback⟩ := exists_trimLeft (trimLeft s).reverse
  refine ⟨front, back.reverse, ?_, hfront, fun c hc => hback c (List.mem_reverse.mp hc)⟩
  have htrim : trimLeft s = trim s ++ back.reverse := by
    rw [← List.reverse_reverse (trimLeft s), hrest, List.reverse_append]
    rfl
  rw [List.append_assoc, ← htrim]
  exact hs

/-- A text without blanks is what is left when blanks around it are dropped. -/
lemma trim_append_append (hfront : ∀ c ∈ front, isBlank c = true)
    (hback : ∀ c ∈ back, isBlank c = true) (hne : core ≠ [])
    (hcore : ∀ c ∈ core, isBlank c = false) : trim (front ++ core ++ back) = core := by
  have hleft : trimLeft (front ++ core ++ back) = core ++ back := by
    rw [List.append_assoc, trimLeft_append hfront, trimLeft_of_not_isBlank hne hcore]
  have hright : trimLeft (core ++ back).reverse = core.reverse := by
    rw [List.reverse_append, trimLeft_append fun c hc => hback c (List.mem_reverse.mp hc),
      ← List.append_nil core.reverse]
    apply trimLeft_of_not_isBlank
    · rwa [ne_eq, List.reverse_eq_nil_iff]
    · exact fun c hc => hcore c (List.mem_reverse.mp hc)
  rw [trim, hleft, hright, List.reverse_reverse]

/-! ## Digits -/

/-- A digit behind others adds its own value to ten times theirs. -/
lemma digitsValue_concat (ds : List Char) (c : Char) :
    digitsValue (ds ++ [c]) = 10 * digitsValue ds + (c.toNat - '0'.toNat) := by
  unfold digitsValue
  rw [Nat.ofDigitChars_append, Nat.ofDigitChars_cons, Nat.ofDigitChars_nil]

/-- The value of a single digit is its own. -/
lemma digitsValue_singleton (c : Char) : digitsValue [c] = c.toNat - '0'.toNat :=
  (digitsValue_concat [] c).trans (Nat.zero_add _)

/-- The grammar of digits describes their value. -/
lemma decimal_iff :
    Decimal ds n ↔ ds ≠ [] ∧ (∀ c ∈ ds, c.isDigit = true) ∧ digitsValue ds = n := by
  constructor
  · intro h
    induction h with
    | @digit c hc =>
      exact ⟨List.cons_ne_nil _ _, List.forall_mem_singleton.mpr hc, digitsValue_singleton c⟩
    | @snoc ds n c _ hc ih =>
      obtain ⟨-, hds, rfl⟩ := ih
      refine ⟨List.append_ne_nil_of_right_ne_nil _ (List.cons_ne_nil _ _), ?_,
        digitsValue_concat ds c⟩
      exact List.forall_mem_append.mpr ⟨hds, List.forall_mem_singleton.mpr hc⟩
  · rintro ⟨hne, hds, rfl⟩
    induction ds using List.reverseRecOn with
    | nil => exact absurd rfl hne
    | append_singleton ds c ih =>
      obtain ⟨hds, hc⟩ := List.forall_mem_append.mp hds
      have hdigit := hc c (List.mem_singleton.mpr rfl)
      by_cases hnil : ds = []
      · rw [hnil, List.nil_append, digitsValue_singleton]
        exact .digit hdigit
      · rw [digitsValue_concat]
        exact .snoc (ih hnil hds) hdigit

/-- There is no number without digits. -/
lemma Decimal.ne_nil (h : Decimal ds n) : ds ≠ [] :=
  (decimal_iff.mp h).1

/-- There are no blanks among the digits of a number. -/
lemma Decimal.isBlank_eq_false (h : Decimal ds n) : ∀ c ∈ ds, isBlank c = false :=
  fun c hc => isBlank_eq_false_of_isDigit ((decimal_iff.mp h).2.1 c hc)

/-- There is no number with or without a sign that has no digits. -/
lemma Signed.ne_nil (h : Signed s n) : s ≠ [] := by
  cases h with
  | plain hds => exact hds.ne_nil
  | plus => exact List.cons_ne_nil _ _

/-- There are no blanks in a number with or without a sign. -/
lemma Signed.isBlank_eq_false (h : Signed s n) : ∀ c ∈ s, isBlank c = false := by
  cases h with
  | plain hds => exact hds.isBlank_eq_false
  | plus hds => exact List.forall_mem_cons.mpr ⟨by decide, hds.isBlank_eq_false⟩

/-! ## Reading -/

/-- Digits do not begin with a plus sign. -/
lemma dropPlus_of_decimal (h : Decimal ds n) : dropPlus ds = ds := by
  unfold dropPlus
  split
  · next rest =>
    have hplus := (decimal_iff.mp h).2.1 '+' List.mem_cons_self
    exact absurd hplus (by decide)
  · rfl

/-- Without the plus sign that may be there, digits with a sign are digits. -/
lemma signed_iff : Signed s n ↔ Decimal (dropPlus s) n := by
  constructor
  · intro h
    cases h with
    | plain hds => rwa [dropPlus_of_decimal hds]
    | plus hds => exact hds
  · intro h
    unfold dropPlus at h
    split at h
    · exact .plus h
    · exact .plain h

/-- A word is read exactly from digits, with or without a sign, that stand for its value. -/
lemma readWord?_eq_some_iff : readWord? s = some w ↔ Signed s w.toNat := by
  rw [signed_iff, decimal_iff]
  unfold readWord?
  simp only [List.all_eq_true]
  split
  · next h => rw [word?_eq_some_iff, eq_comm, and_iff_right h.1, and_iff_right h.2]
  · next h => exact ⟨nofun, fun hds => absurd ⟨hds.1, hds.2.1⟩ h⟩

/-- A word is read exactly from the texts that stand for its value. -/
theorem readWord?_trim_eq_some_iff : readWord? (trim s) = some w ↔ Numeral s w.toNat := by
  rw [readWord?_eq_some_iff]
  constructor
  · intro h
    obtain ⟨front, back, hs, hfront, hback⟩ := exists_trim s
    exact ⟨front, trim s, back, hs, hfront, h, hback⟩
  · rintro ⟨front, core, back, rfl, hfront, hcore, hback⟩
    rwa [trim_append_append hfront hback hcore.ne_nil hcore.isBlank_eq_false]

end ProposalBoard.Text
