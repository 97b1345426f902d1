import Mathlib.Tactic.SplitIfs
import ProposalBoard.Proofs.Digits
import ProposalBoard.Time.Relative

/-!
# Magnitudes in order

A magnitude is a unit with a count. It is chosen by looking at a span in minutes, hours, days and
months, each time rounded, and a unit is entered by the count of the one before it. `band_ofSeconds`
tells the choice by seconds alone: each unit has one range of seconds, its count is the span rounded
in that unit, and where the next larger unit is entered early the rounded count is one. From there
the main results follow: only counts from two up to the next larger unit are told
(`isTold_ofSeconds`), and a longer span has no smaller magnitude (`ofSeconds_mono`).
-/

namespace ProposalBoard.Magnitude

variable {a b n place seconds unit value value' : Nat} {m m' one : Magnitude}
  {many : Nat → Magnitude}

/-! ## Order -/

/-- The place of the unit of a magnitude among the units. -/
def unitPlace : Magnitude → Nat
  | fewSeconds => 0
  | minute | minutes _ => 1
  | hour | hours _ => 2
  | day | days _ => 3
  | month | months _ => 4
  | year | years _ => 5

/-- The count of units. -/
def count : Magnitude → Nat
  | minutes n | hours n | days n | months n | years n => n
  | fewSeconds | minute | hour | day | month | year => 1

/-- A magnitude is of a smaller unit than another, or of the same unit and no larger count. -/
protected def NotLarger (m m' : Magnitude) : Prop :=
  m.unitPlace < m'.unitPlace ∨ (m.unitPlace = m'.unitPlace ∧ m.count ≤ m'.count)

instance : LE Magnitude := ⟨Magnitude.NotLarger⟩

/-- Magnitudes are ordered by their units, and under one unit by their counts. -/
lemma le_def : m ≤ m' ↔
    m.unitPlace < m'.unitPlace ∨ (m.unitPlace = m'.unitPlace ∧ m.count ≤ m'.count) :=
  Iff.rfl

/-- The magnitudes that are told. Counts begin with two and end where the next larger unit begins.
-/
def IsTold : Magnitude → Prop
  | minutes n => 2 ≤ n ∧ n ≤ 44
  | hours n => 2 ≤ n ∧ n ≤ 21
  | days n => 2 ≤ n ∧ n ≤ 25
  | months n => 2 ≤ n ∧ n ≤ 10
  | years n => 2 ≤ n
  | fewSeconds | minute | hour | day | month | year => True

/-! ## Counted units -/

/-- A count of no more than one is told as a single unit. -/
lemma counted_of_le (h : n ≤ 1) : counted n one many = one :=
  if_pos h

/-- A count is told in the unit that is counted. -/
lemma unitPlace_counted (h : ∀ k, (many k).unitPlace = one.unitPlace) :
    (counted n one many).unitPlace = one.unitPlace := by
  unfold counted
  split
  · rfl
  · exact h n

/-- A count is told as it is, but zero as one. -/
lemma count_counted (hone : one.count = 1) (hmany : ∀ k, (many k).count = k) :
    (counted n one many).count = max 1 n := by
  unfold counted
  split
  · omega
  · rw [hmany]
    omega

/-- A count is told if the single unit is, and several units are from two on. -/
lemma isTold_counted (hone : one.IsTold) (hmany : 2 ≤ n → (many n).IsTold) :
    (counted n one many).IsTold := by
  unfold counted
  split
  · exact hone
  · exact hmany (by omega)

/-- Rounding keeps the order of values. -/
lemma rounded_mono (h : value ≤ value') : rounded value unit ≤ rounded value' unit :=
  Nat.div_le_div_right (Nat.add_le_add_right h _)

/-! ## Ranges of seconds -/

/-- The magnitude of a span by the range that its seconds are in. -/
inductive Band (seconds : Nat) : Magnitude → Prop where
  | ofFew (high : seconds < 45) : Band seconds fewSeconds
  | ofMinutes (low : 45 ≤ seconds) (high : seconds < 44 * 60 + 30) :
    Band seconds (counted (rounded seconds 60) minute minutes)
  | ofHours (low : 44 * 60 + 30 ≤ seconds) (high : seconds < 21 * 3600 + 1800) :
    Band seconds (counted (rounded seconds 3600) hour hours)
  | ofDays (low : 21 * 3600 + 1800 ≤ seconds) (high : seconds < 25 * 86400 + 43200) :
    Band seconds (counted (rounded seconds 86400) day days)
  | ofMonths (low : 25 * 86400 + 43200 ≤ seconds)
      (high : seconds < 10 * secondsPerMonth + secondsPerMonth / 2) :
    Band seconds (counted (rounded seconds secondsPerMonth) month months)
  | ofYears (low : 10 * secondsPerMonth + secondsPerMonth / 2 ≤ seconds) :
    Band seconds (counted (rounded (rounded seconds secondsPerMonth) 12) year years)

/-- A unit is entered early with the phrase for a single one. It is counted all the same, since up
to there the rounded count is one. -/
lemma ite_counted {early : Prop} [Decidable early] (h : early → n ≤ 1) :
    (if early then one else counted n one many) = counted n one many := by
  split
  · next hearly => exact (counted_of_le (h hearly)).symm
  · rfl

/-- A rounded count is below a bound exactly if the value and half a unit are below that many
units. -/
lemma rounded_lt_iff (hunit : 0 < unit) :
    rounded value unit < n ↔ value + unit / 2 < n * unit :=
  Nat.div_lt_iff_lt_mul hunit

/-- A rounded count reaches a bound exactly if the value and half a unit reach that many units. -/
lemma le_rounded_iff (hunit : 0 < unit) :
    n ≤ rounded value unit ↔ n * unit ≤ value + unit / 2 :=
  Nat.le_div_iff_mul_le hunit

/-- Spans up to forty-four minutes and a half are told in minutes. -/
lemma ofSeconds_minutes (low : 45 ≤ seconds) (high : seconds < 44 * 60 + 30) :
    ofSeconds seconds = counted (rounded seconds 60) minute minutes := by
  have hinside : rounded seconds 60 < 45 := (rounded_lt_iff (by decide)).mpr (by omega)
  simp only [ofSeconds]
  rw [if_neg (by omega), if_pos hinside]
  apply ite_counted
  intro hearly
  exact Nat.le_of_lt_succ ((rounded_lt_iff (by decide)).mpr (by omega))

/-- Longer spans up to twenty-one hours and a half are told in hours. -/
lemma ofSeconds_hours (low : 44 * 60 + 30 ≤ seconds) (high : seconds < 21 * 3600 + 1800) :
    ofSeconds seconds = counted (rounded seconds 3600) hour hours := by
  have hminutes : 45 ≤ rounded seconds 60 := (le_rounded_iff (by decide)).mpr (by omega)
  have hinside : rounded seconds 3600 < 22 := (rounded_lt_iff (by decide)).mpr (by omega)
  simp only [ofSeconds]
  rw [if_neg (by omega), if_neg (by omega), if_neg (by omega), if_pos hinside]
  apply ite_counted
  intro hearly
  have hshort := (rounded_lt_iff (by decide)).mp hearly
  exact Nat.le_of_lt_succ ((rounded_lt_iff (by decide)).mpr (by omega))

/-- Longer spans up to twenty-five days and a half are told in days. -/
lemma ofSeconds_days (low : 21 * 3600 + 1800 ≤ seconds) (high : seconds < 25 * 86400 + 43200) :
    ofSeconds seconds = counted (rounded seconds 86400) day days := by
  have hminutes : 90 ≤ rounded seconds 60 := (le_rounded_iff (by decide)).mpr (by omega)
  have hhours : 22 ≤ rounded seconds 3600 := (le_rounded_iff (by decide)).mpr (by omega)
  have hinside : rounded seconds 86400 < 26 := (rounded_lt_iff (by decide)).mpr (by omega)
  simp only [ofSeconds]
  rw [if_neg (by omega), if_neg (by omega), if_neg (by omega), if_neg (by omega),
    if_neg (by omega), if_pos hinside]
  apply ite_counted
  intro hearly
  have hshort := (rounded_lt_iff (by decide)).mp hearly
  exact Nat.le_of_lt_succ ((rounded_lt_iff (by decide)).mpr (by omega))

/-- Below ten months and a half, at most ten months are counted. -/
lemma rounded_months_lt (high : seconds < 10 * secondsPerMonth + secondsPerMonth / 2) :
    rounded seconds secondsPerMonth < 11 := by
  rw [rounded_lt_iff (by decide)]
  unfold secondsPerMonth at *
  omega

/-- Longer spans than those told in days, up to ten months and a half, are told in months. -/
lemma ofSeconds_months (low : 25 * 86400 + 43200 ≤ seconds)
    (high : seconds < 10 * secondsPerMonth + secondsPerMonth / 2) :
    ofSeconds seconds = counted (rounded seconds secondsPerMonth) month months := by
  have hminutes : 90 ≤ rounded seconds 60 := (le_rounded_iff (by decide)).mpr (by omega)
  have hhours : 36 ≤ rounded seconds 3600 := (le_rounded_iff (by decide)).mpr (by omega)
  have hdays : 26 ≤ rounded seconds 86400 := (le_rounded_iff (by decide)).mpr (by omega)
  have hinside : rounded seconds secondsPerMonth < 11 := rounded_months_lt high
  simp only [ofSeconds]
  rw [if_neg (by omega), if_neg (by omega), if_neg (by omega), if_neg (by omega),
    if_neg (by omega), if_neg (by omega), if_neg (by omega), if_pos hinside]
  apply ite_counted
  intro hearly
  have hshort := (rounded_lt_iff (by decide)).mp hearly
  apply Nat.le_of_lt_succ
  rw [rounded_lt_iff (by decide)]
  unfold secondsPerMonth
  omega

/-- All longer spans are told in years, which are counted by the rounded months. -/
lemma ofSeconds_years (low : 10 * secondsPerMonth + secondsPerMonth / 2 ≤ seconds) :
    ofSeconds seconds = counted (rounded (rounded seconds secondsPerMonth) 12) year years := by
  have hmonths : 11 ≤ rounded seconds secondsPerMonth := by
    rw [le_rounded_iff (by decide)]
    unfold secondsPerMonth at *
    omega
  unfold secondsPerMonth at low
  have hminutes : 90 ≤ rounded seconds 60 := (le_rounded_iff (by decide)).mpr (by omega)
  have hhours : 36 ≤ rounded seconds 3600 := (le_rounded_iff (by decide)).mpr (by omega)
  have hdays : 46 ≤ rounded seconds 86400 := (le_rounded_iff (by decide)).mpr (by omega)
  simp only [ofSeconds]
  rw [if_neg (by omega), if_neg (by omega), if_neg (by omega), if_neg (by omega),
    if_neg (by omega), if_neg (by omega), if_neg (by omega), if_neg (by omega),
    if_neg (by omega)]
  apply ite_counted
  intro hearly
  exact Nat.le_of_lt_succ ((rounded_lt_iff (by decide)).mpr (by omega))

/-- Each span is in one of the ranges. -/
lemma band_ofSeconds (seconds : Nat) : Band seconds (ofSeconds seconds) := by
  by_cases hfew : seconds < 45
  · have hmagnitude : ofSeconds seconds = fewSeconds := if_pos hfew
    rw [hmagnitude]
    exact .ofFew hfew
  by_cases hminutes : seconds < 44 * 60 + 30
  · rw [ofSeconds_minutes (by omega) hminutes]
    exact .ofMinutes (by omega) hminutes
  by_cases hhours : seconds < 21 * 3600 + 1800
  · rw [ofSeconds_hours (by omega) hhours]
    exact .ofHours (by omega) hhours
  by_cases hdays : seconds < 25 * 86400 + 43200
  · rw [ofSeconds_days (by omega) hdays]
    exact .ofDays (by omega) hdays
  by_cases hmonths : seconds < 10 * secondsPerMonth + secondsPerMonth / 2
  · rw [ofSeconds_months (by omega) hmonths]
    exact .ofMonths (by omega) hmonths
  · rw [ofSeconds_years (by omega)]
    exact .ofYears (by omega)

/-! ## Told magnitudes -/

/-- In each range of seconds, the magnitude is one that is told. -/
lemma Band.isTold {m : Magnitude} (h : Band seconds m) : m.IsTold := by
  cases h with
  | ofFew => trivial
  | ofMinutes _ high =>
    have hlt : rounded seconds 60 < 45 := (rounded_lt_iff (by decide)).mpr (by omega)
    exact isTold_counted trivial fun htwo => ⟨htwo, Nat.le_of_lt_succ hlt⟩
  | ofHours _ high =>
    have hlt : rounded seconds 3600 < 22 := (rounded_lt_iff (by decide)).mpr (by omega)
    exact isTold_counted trivial fun htwo => ⟨htwo, Nat.le_of_lt_succ hlt⟩
  | ofDays _ high =>
    have hlt : rounded seconds 86400 < 26 := (rounded_lt_iff (by decide)).mpr (by omega)
    exact isTold_counted trivial fun htwo => ⟨htwo, Nat.le_of_lt_succ hlt⟩
  | ofMonths _ high =>
    have hlt : rounded seconds secondsPerMonth < 11 := rounded_months_lt high
    exact isTold_counted trivial fun htwo => ⟨htwo, Nat.le_of_lt_succ hlt⟩
  | ofYears => exact isTold_counted trivial id

/-- The magnitude of every span is one that is told. -/
lemma isTold_ofSeconds (seconds : Nat) : (ofSeconds seconds).IsTold :=
  (band_ofSeconds seconds).isTold

/-! ## Longer spans -/

/-- The place of the unit that a span is told in. -/
def placeOf (seconds : Nat) : Nat :=
  if seconds < 45 then 0
  else if seconds < 44 * 60 + 30 then 1
  else if seconds < 21 * 3600 + 1800 then 2
  else if seconds < 25 * 86400 + 43200 then 3
  else if seconds < 10 * secondsPerMonth + secondsPerMonth / 2 then 4
  else 5

/-- The seconds of the unit at a place. Years are counted by months. -/
def unitSeconds : Nat → Nat
  | 1 => 60
  | 2 => 3600
  | 3 => 86400
  | _ => secondsPerMonth

/-- A span rounded in the unit at a place, months once more for years. -/
def countAt (seconds place : Nat) : Nat :=
  if place = 0 then 1
  else if place = 5 then rounded (rounded seconds secondsPerMonth) 12
  else rounded seconds (unitSeconds place)

/-- From minutes to months, a span is rounded once. -/
lemma countAt_of_ne (hfew : place ≠ 0) (hyears : place ≠ 5) :
    countAt seconds place = rounded seconds (unitSeconds place) := by
  unfold countAt
  rw [if_neg hfew, if_neg hyears]

/-- For years, a span is rounded to months and these are rounded once more. -/
lemma countAt_years : countAt seconds 5 = rounded (rounded seconds secondsPerMonth) 12 := by
  unfold countAt
  rw [if_neg (by decide), if_pos rfl]

/-- A longer span is told in no smaller unit. -/
lemma placeOf_mono (h : a ≤ b) : placeOf a ≤ placeOf b := by
  unfold placeOf
  split_ifs <;> omega

/-- A longer span has no smaller count in the same unit. -/
lemma countAt_mono (h : a ≤ b) (place : Nat) : countAt a place ≤ countAt b place := by
  unfold countAt
  split
  · exact Nat.le_refl 1
  · split
    · exact rounded_mono (rounded_mono h)
    · exact rounded_mono h

/-- In each range of seconds, the magnitude has the unit of the range. -/
lemma Band.unitPlace_eq (h : Band seconds m) : m.unitPlace = placeOf seconds := by
  unfold placeOf
  cases h with
  | ofFew high =>
    rw [if_pos high]
    rfl
  | ofMinutes low high =>
    rw [if_neg (by omega), if_pos high]
    exact unitPlace_counted fun _ => rfl
  | ofHours low high =>
    rw [if_neg (by omega), if_neg (by omega), if_pos high]
    exact unitPlace_counted fun _ => rfl
  | ofDays low high =>
    rw [if_neg (by omega), if_neg (by omega), if_neg (by omega), if_pos high]
    exact unitPlace_counted fun _ => rfl
  | ofMonths low high =>
    rw [if_neg (by omega), if_neg (by omega), if_neg (by omega), if_neg (by omega), if_pos high]
    exact unitPlace_counted fun _ => rfl
  | ofYears low =>
    unfold secondsPerMonth at *
    rw [if_neg (by omega), if_neg (by omega), if_neg (by omega), if_neg (by omega),
      if_neg (by omega)]
    exact unitPlace_counted fun _ => rfl

/-- A unit that is counted has the count at its place, but one for zero. -/
lemma count_counted_eq_countAt (hone : one.count = 1) (hmany : ∀ k, (many k).count = k)
    (hplace : ∀ k, (many k).unitPlace = one.unitPlace)
    (hcount : countAt seconds one.unitPlace = n) :
    (counted n one many).count = max 1 (countAt seconds (counted n one many).unitPlace) := by
  rw [unitPlace_counted hplace, count_counted hone hmany, hcount]

/-- In each range of seconds, the magnitude has the count at the place of its unit, but one for
zero. -/
lemma Band.count_eq (h : Band seconds m) : m.count = max 1 (countAt seconds m.unitPlace) := by
  cases h with
  | ofFew => rfl
  | ofMinutes | ofHours | ofDays | ofMonths =>
    exact count_counted_eq_countAt rfl (fun _ => rfl) (fun _ => rfl) (countAt_of_ne nofun nofun)
  | ofYears => exact count_counted_eq_countAt rfl (fun _ => rfl) (fun _ => rfl) countAt_years

/-- A longer span has no smaller magnitude, also where the unit changes. -/
lemma ofSeconds_mono (h : a ≤ b) : ofSeconds a ≤ ofSeconds b := by
  have ha := band_ofSeconds a
  have hb := band_ofSeconds b
  have hplace : (ofSeconds a).unitPlace ≤ (ofSeconds b).unitPlace := by
    rw [ha.unitPlace_eq, hb.unitPlace_eq]
    exact placeOf_mono h
  rw [le_def]
  rcases Nat.lt_or_eq_of_le hplace with hlt | heq
  · exact .inl hlt
  · have hcount := countAt_mono h (ofSeconds b).unitPlace
    refine .inr ⟨heq, ?_⟩
    rw [ha.count_eq, hb.count_eq, heq]
    omega

/-! ## Phrases -/

/-- The numeral that a phrase begins with, if there is one. -/
def numeral : Magnitude → List Char
  | minutes n | hours n | days n | months n | years n => Text.digits n
  | fewSeconds | minute | hour | day | month | year => []

/-- A phrase without its numeral. A blank stands in front of the name of a counted unit. -/
def words : Magnitude → String
  | fewSeconds => "a few seconds"
  | minute => "a minute"
  | minutes _ => " minutes"
  | hour => "an hour"
  | hours _ => " hours"
  | day => "a day"
  | days _ => " days"
  | month => "a month"
  | months _ => " months"
  | year => "a year"
  | years _ => " years"

/-- A count is written as its digits, a blank and the name of the unit. -/
lemma toList_countPhrase (n : Nat) (units : String) :
    (countPhrase n units).toList = Text.digits n ++ (" " ++ units).toList := by
  simp [countPhrase]

/-- A phrase is its numeral and its words. -/
lemma toList_phrase (m : Magnitude) : m.phrase.toList = m.numeral ++ m.words.toList := by
  cases m with
  | minutes n => exact toList_countPhrase n "minutes"
  | hours n => exact toList_countPhrase n "hours"
  | days n => exact toList_countPhrase n "days"
  | months n => exact toList_countPhrase n "months"
  | years n => exact toList_countPhrase n "years"
  | _ => rfl

/-- A numeral has digits only. -/
lemma isDigit_of_mem_numeral {c : Char} (h : c ∈ m.numeral) : c.isDigit = true := by
  cases m with
  | minutes | hours | days | months | years => exact Text.isDigit_of_mem_digits h
  | _ => cases h

/-- The blank in front of the name of a unit ends the digits. -/
lemma endsDigits_units (units : String) : Text.EndsDigits (" " ++ units).toList := by
  rw [String.toList_append]
  exact Text.endsDigits_cons (c := ' ') rfl

/-- The words of a magnitude do not begin with a digit. -/
lemma endsDigits_words (m : Magnitude) : Text.EndsDigits m.words.toList := by
  cases m with
  | minutes => exact endsDigits_units "minutes"
  | hours => exact endsDigits_units "hours"
  | days => exact endsDigits_units "days"
  | months => exact endsDigits_units "months"
  | years => exact endsDigits_units "years"
  | _ => exact Text.endsDigits_cons (c := 'a') rfl

/-- Different numbers have different digits. -/
lemma digits_inj {k n : Nat} : Text.digits k = Text.digits n ↔ k = n := by
  constructor
  · intro h
    rw [← Text.digitsValue_digits k, h, Text.digitsValue_digits]
  · rintro rfl
    rfl

/-- Numeral and words tell the magnitude. -/
lemma eq_of_parts (hnumeral : m.numeral = m'.numeral) (hwords : m.words = m'.words) : m = m' := by
  cases m <;> cases m' <;> simp_all [words, numeral, digits_inj]

/-- No two magnitudes have the same phrase. -/
lemma phrase_injective : Function.Injective phrase := by
  intro m m' h
  have htext : m.numeral ++ m.words.toList = m'.numeral ++ m'.words.toList := by
    rw [← toList_phrase, ← toList_phrase, h]
  have htake (m : Magnitude) : (m.numeral ++ m.words.toList).takeWhile Char.isDigit = m.numeral :=
    Text.takeWhile_isDigit_append (fun _ => isDigit_of_mem_numeral) (endsDigits_words m)
  have hnumeral : m.numeral = m'.numeral := by
    rw [← htake m, htext, htake m']
  rw [hnumeral] at htext
  exact eq_of_parts hnumeral (String.toList_injective (List.append_cancel_left htext))

end ProposalBoard.Magnitude
