import ProposalBoard.Text.Blank

/-!
# Decimal numerals

Runs of ASCII digits and their value, and the numerals that stand for an unsigned 64-bit word: an
optional plus sign and one or more digits, leading zeros allowed, with a value below `2 ^ 64`.
-/

namespace ProposalBoard.Text

/-- The value of a run of digits. The empty run counts as zero. -/
def digitsValue (digits : List Char) : Nat :=
  Nat.ofDigitChars 10 digits 0

/-- The numeral of a number without leading zeros. -/
def digits (n : Nat) : List Char :=
  Nat.toDigits 10 n

/-- The numeral of a number, filled up with zeros in front to at least the given width. -/
def paddedDigits (width n : Nat) : List Char :=
  List.replicate (width - (digits n).length) '0' ++ digits n

/-- A number as an unsigned 64-bit word, if it is in range. -/
def word? (n : Nat) : Option UInt64 :=
  if h : n < UInt64.size then some (UInt64.ofNatLT n h) else none

/-- A text without the plus sign that may stand in front of it. -/
def dropPlus : List Char → List Char
  | '+' :: rest => rest
  | s => s

/-- Reads a numeral as an unsigned 64-bit word. -/
def readWord? (s : List Char) : Option UInt64 :=
  let ds := dropPlus s
  if ds ≠ [] ∧ ds.all Char.isDigit then word? (digitsValue ds) else none

/-- Reading the numeral of a number gives the number back. -/
@[simp] theorem digitsValue_digits (n : Nat) : digitsValue (digits n) = n :=
  Nat.ofDigitChars_ten_toDigits

/-- Zeros in front do not change a value. -/
@[simp] theorem digitsValue_paddedDigits (width n : Nat) :
    digitsValue (paddedDigits width n) = n := by
  simp [paddedDigits, digitsValue, Nat.ofDigitChars_append, digits,
    Nat.ofDigitChars_ten_toDigits]

/-- A numeral holds digits only. -/
theorem isDigit_of_mem_digits {n : Nat} {c : Char} (h : c ∈ digits n) : c.isDigit = true :=
  Nat.isDigit_of_mem_toDigits (by decide) (by decide) h

/-- A number has a numeral. -/
theorem digits_ne_nil (n : Nat) : digits n ≠ [] := by
  have := @Nat.length_toDigits_pos 10 n
  exact List.ne_nil_of_length_pos this

/-- A padded numeral holds digits only. -/
theorem isDigit_of_mem_paddedDigits {width n : Nat} {c : Char} (h : c ∈ paddedDigits width n) :
    c.isDigit = true := by
  rcases List.mem_append.mp h with h | h
  · rw [(List.mem_replicate.mp h).2]; decide
  · exact isDigit_of_mem_digits h

/-- A word is read from its own value. -/
@[simp] theorem word?_toNat (w : UInt64) : word? w.toNat = some w := by
  simp [word?, UInt64.toNat_lt_size]

/-- A number in range is the value of the word read from it. -/
theorem word?_eq_some_iff {n : Nat} {w : UInt64} : word? n = some w ↔ w.toNat = n := by
  constructor
  · intro h
    unfold word? at h
    split at h
    · cases h; simp
    · cases h
  · rintro rfl; simp

end ProposalBoard.Text
