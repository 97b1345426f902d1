import Mathlib.Tactic.IntervalCases
import Mathlib.Tactic.Lemma
import ProposalBoard.Text.Numeral

/-!
# Runs of digits

What reading takes off a text that begins with a numeral: the digits of the numeral, as long as the
text behind does not go on with a digit (`Text.EndsDigits`).
-/

namespace ProposalBoard.Text

variable {ds rest : List Char} {width n : Nat}

/-- A text does not go on with a digit. -/
def EndsDigits (rest : List Char) : Prop :=
  ∀ c ∈ rest.head?, c.isDigit = false

/-- The empty text does not go on with a digit. -/
lemma endsDigits_nil : EndsDigits [] := by
  nofun

/-- A text that begins with no digit does not go on with one. -/
lemma endsDigits_cons {c : Char} (h : c.isDigit = false) : EndsDigits (c :: rest) := by
  rintro _ ⟨⟩
  exact h

/-- The front of a text that does not go on with a digit does not either. -/
lemma EndsDigits.take (h : EndsDigits rest) (count : Nat) : EndsDigits (rest.take count) := by
  cases rest with
  | nil => simpa using h
  | cons c rest =>
    cases count with
    | zero => exact endsDigits_nil
    | succ count => exact endsDigits_cons (h c rfl)

/-- No digit is taken off a text that does not go on with one. -/
lemma EndsDigits.takeWhile_eq_nil (h : EndsDigits rest) : rest.takeWhile Char.isDigit = [] := by
  cases rest with
  | nil => rfl
  | cons c rest => exact List.takeWhile_cons_of_neg (by simp [h c rfl])

/-- Digits are taken off up to a text that does not go on with one. -/
lemma takeWhile_isDigit_append (hds : ∀ c ∈ ds, c.isDigit = true) (hrest : EndsDigits rest) :
    (ds ++ rest).takeWhile Char.isDigit = ds := by
  rw [List.takeWhile_append_of_pos hds, hrest.takeWhile_eq_nil, List.append_nil]

/-- Behind the digits, the text that does not go on with one is left. -/
lemma dropWhile_isDigit_append (hds : ∀ c ∈ ds, c.isDigit = true) (hrest : EndsDigits rest) :
    (ds ++ rest).dropWhile Char.isDigit = rest := by
  rw [List.dropWhile_append_of_pos hds]
  cases rest with
  | nil => rfl
  | cons c rest => exact List.dropWhile_cons_of_neg (by simp [hrest c rfl])

/-- Blanks are looked for in front of a digit in vain. -/
lemma trimLeft_append_of_isDigit (hne : ds ≠ []) (hds : ∀ c ∈ ds, c.isDigit = true) :
    trimLeft (ds ++ rest) = ds ++ rest := by
  cases ds with
  | nil => exact absurd rfl hne
  | cons c ds =>
    exact trimLeft_cons_of_not_isBlank (isBlank_eq_false_of_isDigit (hds c List.mem_cons_self))

/-- A numeral begins with a digit. -/
lemma exists_digits_eq_cons (n : Nat) : ∃ d ds, digits n = d :: ds ∧ d.isDigit = true := by
  obtain ⟨d, ds, hds⟩ := List.exists_cons_of_ne_nil (digits_ne_nil n)
  have hmem : d ∈ digits n := hds ▸ List.mem_cons_self
  exact ⟨d, ds, hds, isDigit_of_mem_digits hmem⟩

/-- The numeral of a positive number does not begin with a zero. -/
lemma head?_digits_ne_zero (h : 0 < n) : (digits n).head? ≠ some '0' := by
  induction n using Nat.strongRecOn with
  | _ n ih =>
    by_cases hsmall : n < 10
    · rw [digits, Nat.toDigits_of_lt_base hsmall]
      interval_cases n <;> decide
    · have hfront : digits n = digits (n / 10) ++ [Nat.digitChar (n % 10)] :=
        Nat.toDigits_of_base_le (by decide) (by omega)
      obtain ⟨c, cs, hcs, -⟩ := exists_digits_eq_cons (n / 10)
      have hne := ih (n / 10) (by omega) (by omega)
      rw [hcs] at hne
      rw [hfront, hcs]
      exact hne

/-- A zero in front of a numeral is the whole numeral. -/
lemma length_digits_of_head?_eq_zero (h : (digits n).head? = some '0') : (digits n).length = 1 := by
  rcases Nat.eq_zero_or_pos n with rfl | hn
  · rfl
  · exact absurd h (head?_digits_ne_zero hn)

/-- A padded numeral is not empty. -/
lemma paddedDigits_ne_nil (width n : Nat) : paddedDigits width n ≠ [] :=
  List.append_ne_nil_of_right_ne_nil _ (digits_ne_nil n)

/-- A number that fits the width is filled up to it. -/
lemma length_paddedDigits (hwidth : 0 < width) (h : n < 10 ^ width) :
    (paddedDigits width n).length = width := by
  have hdigits : (digits n).length ≤ width :=
    (Nat.length_toDigits_le_iff (by decide) hwidth).mpr h
  simp only [paddedDigits, List.length_append, List.length_replicate]
  omega

/-- Each zero behind a numeral makes it ten times as much. -/
lemma digitsValue_append_zeros (ds : List Char) (count : Nat) :
    digitsValue (ds ++ List.replicate count '0') = 10 ^ count * digitsValue ds := by
  unfold digitsValue
  rw [Nat.ofDigitChars_append, Nat.ofDigitChars_replicate_zero]

end ProposalBoard.Text
