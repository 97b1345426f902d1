import Mathlib.Tactic.Lemma
import ProposalBoard.Json.Printer
import ProposalBoard.Json.Reader
import ProposalBoard.Proofs.Digits

/-!
# Integer literals

What is read from an integer literal that was written: the integer, if it fits a word and the text
behind does not go on with a number (`Json.EndsNumber`).
-/

namespace ProposalBoard.Json

variable {rest : List Char} {depth n : Nat}

/-- A text does not go on with the number in front of it. -/
def EndsNumber (rest : List Char) : Prop :=
  ∀ c ∈ rest.head?, c.isDigit = false ∧ c ≠ '.' ∧ c ≠ 'e' ∧ c ≠ 'E'

/-- The end of a text ends a number. -/
lemma endsNumber_nil : EndsNumber [] := by
  nofun

/-- A comma ends a number. -/
lemma endsNumber_comma : EndsNumber (',' :: rest) := by
  rintro _ ⟨⟩
  decide

/-- A line break ends a number. -/
lemma endsNumber_newline : EndsNumber (newline depth ++ rest) := by
  rintro _ ⟨⟩
  decide

/-- What ends a number ends its digits. -/
lemma EndsNumber.endsDigits (h : EndsNumber rest) : Text.EndsDigits rest :=
  fun c hc => (h c hc).1

/-- The digits of a number are read up to its end. -/
lemma readDigits_append (h : EndsNumber rest) :
    readDigits (Text.digits n ++ rest) = some (Text.digits n, rest) := by
  have hdigits : ∀ c ∈ Text.digits n, c.isDigit = true := fun _ => Text.isDigit_of_mem_digits
  rw [readDigits, Text.takeWhile_isDigit_append hdigits h.endsDigits,
    Text.dropWhile_isDigit_append hdigits h.endsDigits]
  exact if_neg (Text.digits_ne_nil n)

/-- Where a number ends, there is no fraction. -/
lemma EndsNumber.readFraction (h : EndsNumber rest) : readFraction rest = some (none, rest) := by
  unfold Json.readFraction
  split
  · exact absurd rfl (h '.' rfl).2.1
  · rfl

/-- Where a number ends, there is no exponent. -/
lemma EndsNumber.readExponent (h : EndsNumber rest) : readExponent rest = some (none, rest) := by
  unfold Json.readExponent
  split
  · exact absurd rfl (h 'e' rfl).2.2.1
  · exact absurd rfl (h 'E' rfl).2.2.2
  · rfl

/-- Behind its sign, the numeral of a number is read to its end. -/
lemma readMagnitude_append (negative : Bool) (h : EndsNumber rest) :
    readMagnitude negative (Text.digits n ++ rest) =
      some (number negative (Text.digits n) none none, rest) := by
  have hzero : ¬((Text.digits n).head? = some '0' ∧ (Text.digits n).length ≠ 1) :=
    fun hzero => hzero.2 (Text.length_digits_of_head?_eq_zero hzero.1)
  simp only [readMagnitude, readDigits_append h, Option.bind_eq_bind, Option.bind_some]
  rw [if_neg hzero, h.readFraction]
  simp only [Option.bind_some]
  rw [h.readExponent]
  rfl

/-- Further digits do not make a value smaller. -/
lemma le_ofDigitChars (ds : List Char) (value : Nat) : value ≤ Nat.ofDigitChars 10 ds value := by
  induction ds generalizing value with
  | nil => exact Nat.le_refl value
  | cons d ds ih =>
    rw [Nat.ofDigitChars_cons]
    have := ih (10 * value + (d.toNat - '0'.toNat))
    omega

/-- Digits are all taken if their value fits a word. -/
lemma takeDigits_eq {ds : List Char} {value : Nat}
    (h : Nat.ofDigitChars 10 ds value < UInt64.size) :
    takeDigits value ds = (Nat.ofDigitChars 10 ds value, []) := by
  induction ds generalizing value with
  | nil => rfl
  | cons d ds ih =>
    have hnext : value * 10 + Text.digitsValue [d] = 10 * value + (d.toNat - '0'.toNat) := by
      rw [Text.digitsValue, Nat.ofDigitChars_cons, Nat.mul_comm]
      exact congrArg _ (Nat.zero_add _)
    rw [Nat.ofDigitChars_cons] at h ⊢
    rw [takeDigits, hnext, if_pos (Nat.lt_of_le_of_lt (le_ofDigitChars ds _) h)]
    exact ih h

/-- The digits of a number that fits a word are all taken and make up the number. -/
lemma takeDigits_digits (h : n < UInt64.size) : takeDigits 0 (Text.digits n) = (n, []) := by
  have hvalue : Nat.ofDigitChars 10 (Text.digits n) 0 = n := Text.digitsValue_digits n
  rw [takeDigits_eq (by rwa [hvalue]), hvalue]

/-- The digits of a number that fits a word denote the number. -/
lemma number_of_nonneg (h : n < UInt64.size) :
    number false (Text.digits n) none none = .int n := by
  rw [number, takeDigits_digits h]

/-- Behind a minus sign, the digits of a number other than zero denote its opposite. -/
lemma number_of_neg (h : n < UInt64.size) (hne : n ≠ 0) :
    number true (Text.digits n) none none = .int (-n) := by
  rw [number, takeDigits_digits h]
  exact if_neg hne

/-- An integer that fits a word is read from its literal. -/
lemma readNumber_writeInt {k : Int} (hk : k.natAbs < UInt64.size) (hrest : EndsNumber rest) :
    readNumber (writeInt k ++ rest) = some (.int k, rest) := by
  unfold writeInt
  split
  · next hneg =>
    have hvalue : -(k.natAbs : Int) = k := by omega
    show readMagnitude true (Text.digits k.natAbs ++ rest) = _
    rw [readMagnitude_append true hrest, number_of_neg hk (by omega), hvalue]
  · next hnonneg =>
    have hvalue : (k.natAbs : Int) = k := by omega
    obtain ⟨d, ds, hds, hdigit⟩ := Text.exists_digits_eq_cons k.natAbs
    have hmagnitude := readMagnitude_append (n := k.natAbs) false hrest
    rw [number_of_nonneg hk, hvalue, hds] at hmagnitude
    rw [hds]
    unfold readNumber
    split
    · next heq =>
      -- the numeral would begin with the sign
      cases heq
      cases hdigit
    · exact hmagnitude

/-- The characters that a number may begin with. -/
def beginsNumber (c : Char) : Bool :=
  c.isDigit || c = '-'

/-- The literal of an integer begins as numbers do. -/
lemma exists_writeInt_eq_cons (k : Int) :
    ∃ c cs, writeInt k = c :: cs ∧ beginsNumber c = true := by
  unfold writeInt
  split
  · exact ⟨_, _, rfl, rfl⟩
  · obtain ⟨d, ds, hds, hdigit⟩ := Text.exists_digits_eq_cons k.natAbs
    exact ⟨d, ds, hds, by rw [beginsNumber, hdigit, Bool.true_or]⟩

end ProposalBoard.Json
