import Mathlib.Tactic.IntervalCases
import Mathlib.Tactic.Lemma
import ProposalBoard.Json.Printer
import ProposalBoard.Json.Reader

/-!
# String literals

What is read from a string literal that was written: the code points of the text, one for each
character however it is escaped, and from them the text, since no character is half of a surrogate
pair.
-/

namespace ProposalBoard.Json

variable {c letter : Char} {before : List Nat} {rest : List Char}

/-! ## Characters -/

/-- A character that needs no escape is read as its code point. -/
lemma readString_cons (hquote : c ≠ '"') (hslash : c ≠ '\\') (hcontrol : ¬c.toNat < 0x20) :
    readString before (c :: rest) = readString (c.toNat :: before) rest := by
  rw [readString, if_neg hcontrol]
  · exact hquote
  · exact fun _ _ _ _ _ h _ => hslash h
  · exact fun _ _ h _ => hslash h

/-- What a letter behind a backslash is written for is what it is read as. -/
lemma readString_letter (h : escapeLetter? c = some letter) :
    readString before ('\\' :: letter :: rest) = readString (c.toNat :: before) rest := by
  unfold escapeLetter? at h
  split at h <;> cases h <;> rfl

/-- The four hexadecimal digits of a control character are read as its code point. -/
lemma readString_hex {n : Nat} (h : n < 0x20) :
    readString before ('\\' :: 'u' :: '0' :: '0' :: Nat.digitChar (n / 16) ::
      Nat.digitChar (n % 16) :: rest) = readString (n :: before) rest := by
  interval_cases n <;> rfl

/-- Each character is read as its code point, whether it is escaped or not. -/
lemma readString_escapeChar (c : Char) (before : List Nat) (rest : List Char) :
    readString before (escapeChar c ++ rest) = readString (c.toNat :: before) rest := by
  unfold escapeChar
  split
  · next letter hletter => exact readString_letter hletter
  · next hletter =>
    split
    · next hcontrol => exact readString_hex hcontrol
    · next hcontrol =>
      apply readString_cons _ _ hcontrol
      · rintro rfl
        cases hletter
      · rintro rfl
        cases hletter

/-! ## Texts -/

/-- The code points of a text. -/
def points (s : String) : List Nat :=
  s.toList.map Char.toNat

/-- The characters of a literal are read one by one up to the closing quote. -/
lemma readString_flatMap_escapeChar (cs : List Char) (before : List Nat) (rest : List Char) :
    readString before (cs.flatMap escapeChar ++ '"' :: rest) =
      some (before.reverse ++ cs.map Char.toNat, rest) := by
  induction cs generalizing before with
  | nil => simp [readString]
  | cons c cs ih =>
    rw [List.flatMap_cons, List.append_assoc, readString_escapeChar, ih, List.reverse_cons,
      List.append_assoc]
    rfl

/-- A literal is a quote, the characters with their escapes and another quote. -/
lemma quote_append (s : String) (rest : List Char) :
    quote s ++ rest = '"' :: (s.toList.flatMap escapeChar ++ '"' :: rest) := by
  simp [quote]

/-- Behind the opening quote of the literal of a text, its code points are read. -/
lemma readString_literal (s : String) (rest : List Char) :
    readString [] (s.toList.flatMap escapeChar ++ '"' :: rest) = some (points s, rest) :=
  readString_flatMap_escapeChar s.toList [] rest

/-- No character is half of a surrogate pair. -/
lemma not_isSurrogate_toNat (c : Char) :
    isHighSurrogate c.toNat = false ∧ isLowSurrogate c.toNat = false := by
  have hvalid : c.toNat < 0xD800 ∨ 0xDFFF < c.toNat ∧ c.toNat < 0x110000 := c.valid
  simp only [isHighSurrogate, isLowSurrogate, Bool.and_eq_false_iff, decide_eq_false_iff_not]
  omega

/-- The code points of characters are not paired, and denote the characters. -/
lemma pairSurrogates?_map_toNat (before cs : List Char) :
    pairSurrogates? before (cs.map Char.toNat) = some (before.reverse ++ cs) := by
  induction cs generalizing before with
  | nil => simp [pairSurrogates?]
  | cons c cs ih =>
    obtain ⟨hhigh, hlow⟩ := not_isSurrogate_toNat c
    cases cs with
    | nil => simp [pairSurrogates?, hhigh, hlow]
    | cons d cs =>
      have hnext := ih (c :: before)
      simp only [List.map_cons] at hnext ⊢
      simp [pairSurrogates?, hhigh, hlow, hnext]

/-- The code points of a text denote the text. -/
lemma text?_points (s : String) : text? (points s) = some s := by
  rw [text?, points, pairSurrogates?_map_toNat]
  simp

/-! ## Texts without escapes -/

/-- No character of a text is escaped in its literal. -/
def IsVerbatim (s : String) : Prop :=
  ∀ c ∈ s.toList, escapeChar c = [c]

instance (s : String) : Decidable (IsVerbatim s) :=
  List.decidableBAll (fun c => escapeChar c = [c]) s.toList

/-- A text without escapes is written as it is. -/
lemma IsVerbatim.flatMap_escapeChar {s : String} (h : IsVerbatim s) :
    s.toList.flatMap escapeChar = s.toList := by
  rw [List.flatMap_def, List.map_congr_left h, ← List.flatMap_def]
  exact List.flatMap_singleton' s.toList

/-- No escape is found in the literal of a text without escapes. -/
lemma hasEscape_eq_false {s : String} (h : IsVerbatim s) :
    hasEscape (s.toList.flatMap escapeChar ++ '"' :: rest) = false := by
  have hquote : ∀ c ∈ s.toList, decide (c ≠ '"') = true := by
    rintro c hc
    rw [decide_eq_true_iff]
    rintro rfl
    cases h _ hc
  have hslash : '\\' ∉ s.toList := fun hmem => nomatch h _ hmem
  rw [h.flatMap_escapeChar, hasEscape, List.takeWhile_append_of_pos hquote]
  simpa using hslash

end ProposalBoard.Json
