import ProposalBoard.Proofs.Magnitude

/-!
# Accuracy of magnitudes

What the phrase for a span promises about its seconds. From forty-five seconds on, a span is told as
a count of one unit (`TimeUnit.Tells`): at least one, fewer than the next larger unit is entered
with, and off by half a unit at most. Years are rounded twice, so that half a month comes on top.
`Band.tells` shows this for each range of seconds. The only number in a phrase is the count, and a
single unit is told without one (`number_counted`). The main statement `tellsSpan_phrase` puts this
together for every number of seconds.
-/

namespace ProposalBoard

namespace Text

variable {ds rest : List Char} {n : Nat}

/-- A text contains a number: its digits stand together, and there is no digit next to them. -/
def ContainsNumber (s : List Char) (n : Nat) : Prop :=
  ∃ before run after, s = before ++ (run ++ after) ∧ run ≠ [] ∧ (∀ c ∈ run, c.isDigit = true) ∧
    (∀ c ∈ before.getLast?, c.isDigit = false) ∧ EndsDigits after ∧ digitsValue run = n

/-- A text without digits does not go on with one. -/
lemma endsDigits_of_forall (h : ∀ c ∈ rest, c.isDigit = false) : EndsDigits rest :=
  fun c hc => h c (List.mem_of_mem_head? hc)

/-- Where all digits of a text are in front, they are the only number in it. -/
lemma ContainsNumber.of_append (hds : ∀ c ∈ ds, c.isDigit = true)
    (hrest : ∀ c ∈ rest, c.isDigit = false) (h : ContainsNumber (ds ++ rest) n) :
    ds ≠ [] ∧ digitsValue ds = n := by
  obtain ⟨before, run, after, htext, hne, hrun, hbefore, hafter, hvalue⟩ := h
  rcases List.append_eq_append_iff.mp htext with ⟨front, rfl, hbehind⟩ | ⟨front, hfront, hbehind⟩
  · -- the run would begin behind all digits
    obtain ⟨d, ds', rfl⟩ := List.exists_cons_of_ne_nil hne
    have hmem : d ∈ rest := by simp [hbehind]
    have hdigit := hrun d List.mem_cons_self
    rw [hrest d hmem] at hdigit
    cases hdigit
  · -- a digit would stand before the run
    have hnil : before = [] := by
      rw [← List.getLast?_eq_none_iff]
      apply Option.eq_none_iff_forall_not_mem.mpr
      intro c hc
      have hdigit := hds c (hfront ▸ List.mem_append_left _ (List.mem_of_getLast? hc))
      rw [hbefore c hc] at hdigit
      cases hdigit
    subst hnil
    rw [List.nil_append] at hfront
    subst hfront
    have hsame : ds = run := by
      rw [← takeWhile_isDigit_append hds (endsDigits_of_forall hrest), ← hbehind,
        takeWhile_isDigit_append hrun hafter]
    rw [hsame]
    exact ⟨hne, hvalue⟩

end Text

/-- The units that spans are counted in. -/
inductive TimeUnit where
  | minute
  | hour
  | day
  | month
  | year
deriving DecidableEq

namespace TimeUnit

/-- The seconds of a unit. -/
def seconds : TimeUnit → Nat
  | minute => 60
  | hour => 3600
  | day => 86400
  | month => Magnitude.secondsPerMonth
  | year => 12 * Magnitude.secondsPerMonth

/-- The magnitude of a single unit. -/
def one : TimeUnit → Magnitude
  | minute => .minute
  | hour => .hour
  | day => .day
  | month => .month
  | year => .year

/-- The magnitude of several units. -/
def many : TimeUnit → Nat → Magnitude
  | minute => .minutes
  | hour => .hours
  | day => .days
  | month => .months
  | year => .years

/-- The word for several units. -/
def plural : TimeUnit → String
  | minute => "minutes"
  | hour => "hours"
  | day => "days"
  | month => "months"
  | year => "years"

/-- The greatest count of a unit. Years have none. -/
def greatest? : TimeUnit → Option Nat
  | minute => some 44
  | hour => some 21
  | day => some 25
  | month => some 10
  | year => none

/-- The width of the spans that are told by the same count. A year is counted in months, which are
rounded themselves. -/
def width : TimeUnit → Nat
  | year => year.seconds + month.seconds
  | unit => unit.seconds

/-- A count of a unit tells how many seconds there are, up to rounding. -/
structure Tells (unit : TimeUnit) (n seconds : Nat) : Prop where
  pos : 1 ≤ n
  le_greatest : ∀ most ∈ unit.greatest?, n ≤ most
  near : 2 * ((seconds : Int) - n * unit.seconds).natAbs ≤ unit.width

end TimeUnit

namespace Magnitude

variable {seconds n k : Nat} {m : Magnitude} {unit : TimeUnit}

/-! ## Rounding -/

/-- A rounded count is off by half a unit at most. -/
lemma near_rounded (value : Nat) {step : Nat} (hstep : 0 < step) :
    2 * ((value : Int) - rounded value step * step).natAbs ≤ step := by
  have hlow : rounded value step * step ≤ value + step / 2 := Nat.div_mul_le_self _ _
  have hhigh : value + step / 2 < rounded value step * step + step :=
    Nat.lt_div_mul_add hstep
  have hcast : ((rounded value step * step : Nat) : Int) = rounded value step * step :=
    Int.natCast_mul _ _
  omega

/-- Twice rounded, a count of years is off by half a year and half a month at most. -/
lemma near_rounded_rounded :
    2 * ((seconds : Int) - rounded (rounded seconds secondsPerMonth) 12 *
      (12 * secondsPerMonth : Nat)).natAbs ≤ 12 * secondsPerMonth + secondsPerMonth := by
  have hmonth : 0 < secondsPerMonth := by decide
  have hyear : 0 < 12 := by decide
  have hmonths := near_rounded seconds hmonth
  have hyears := near_rounded (rounded seconds secondsPerMonth) hyear
  unfold secondsPerMonth at *
  omega

/-- A span that is rounded once is told by the rounded count, as long as this is at least one and no
more than the greatest. -/
lemma tells_rounded (hpos : 0 < unit.seconds) (hwidth : unit.width = unit.seconds)
    (hlow : 1 * unit.seconds ≤ seconds + unit.seconds / 2)
    (hhigh : ∀ most ∈ unit.greatest?, seconds + unit.seconds / 2 < (most + 1) * unit.seconds) :
    unit.Tells (rounded seconds unit.seconds) seconds where
  pos := (le_rounded_iff hpos).mpr hlow
  le_greatest most hmost := Nat.le_of_lt_succ ((rounded_lt_iff hpos).mpr (hhigh most hmost))
  near := by
    rw [hwidth]
    exact near_rounded _ hpos

/-- Beyond the few seconds, each range of seconds is told by a count of its unit. -/
lemma Band.tells (h : Band seconds m) (hlong : 45 ≤ seconds) :
    ∃ (unit : TimeUnit) (n : Nat), m = counted n unit.one unit.many ∧ unit.Tells n seconds := by
  cases h with
  | ofFew high => omega
  | ofMinutes low high =>
    refine ⟨.minute, _, rfl, tells_rounded (by decide) rfl ?_ ?_⟩
    · show 1 * 60 ≤ seconds + 60 / 2
      omega
    · rintro _ ⟨⟩
      show seconds + 60 / 2 < (44 + 1) * 60
      omega
  | ofHours low high =>
    refine ⟨.hour, _, rfl, tells_rounded (by decide) rfl ?_ ?_⟩
    · show 1 * 3600 ≤ seconds + 3600 / 2
      omega
    · rintro _ ⟨⟩
      show seconds + 3600 / 2 < (21 + 1) * 3600
      omega
  | ofDays low high =>
    refine ⟨.day, _, rfl, tells_rounded (by decide) rfl ?_ ?_⟩
    · show 1 * 86400 ≤ seconds + 86400 / 2
      omega
    · rintro _ ⟨⟩
      show seconds + 86400 / 2 < (25 + 1) * 86400
      omega
  | ofMonths low high =>
    refine ⟨.month, _, rfl, tells_rounded (by decide) rfl ?_ ?_⟩
    · show 1 * 2629746 ≤ seconds + 2629746 / 2
      omega
    · rintro _ ⟨⟩
      exact (rounded_lt_iff (by decide)).mp (rounded_months_lt high)
  | ofYears low =>
    refine ⟨.year, _, rfl, ?_, nofun, near_rounded_rounded⟩
    have hmonths : 11 ≤ rounded seconds secondsPerMonth := by
      rw [le_rounded_iff (by decide)]
      unfold secondsPerMonth at *
      omega
    exact (le_rounded_iff (by decide)).mpr (by omega)

/-! ## Numbers in phrases -/

/-- There are no digits in the words of a magnitude. -/
lemma isDigit_eq_false_of_mem_words {c : Char} (h : c ∈ m.words.toList) : c.isDigit = false := by
  have hwords : m.words.toList.all (!·.isDigit) = true := by
    cases m <;> simp only [words] <;> decide
  have hc := List.all_eq_true.mp hwords c h
  rwa [Bool.not_eq_true'] at hc

/-- The few seconds are the only magnitude with this letter. -/
lemma eq_fewSeconds_of_mem (h : 'f' ∈ m.phrase.toList) : m = fewSeconds := by
  rw [toList_phrase] at h
  rcases List.mem_append.mp h with hnumeral | hwords
  · exact absurd (isDigit_of_mem_numeral hnumeral) (by decide)
  · cases m with
    | fewSeconds => rfl
    | _ => exact absurd hwords (by simp only [words]; decide)

/-- Several units are told by their count and the word for them. -/
lemma phrase_many (unit : TimeUnit) (n : Nat) :
    (unit.many n).phrase = countPhrase n unit.plural := by
  cases unit <;> rfl

/-- A single unit is told without a numeral. -/
lemma numeral_one (unit : TimeUnit) : unit.one.numeral = [] := by
  cases unit <;> rfl

/-- Several units are told with the numeral of their count. -/
lemma numeral_many (unit : TimeUnit) (n : Nat) : (unit.many n).numeral = Text.digits n := by
  cases unit <;> rfl

/-- The number in a phrase is the one that its numeral stands for. -/
lemma digitsValue_numeral (h : Text.ContainsNumber m.phrase.toList k) :
    m.numeral ≠ [] ∧ Text.digitsValue m.numeral = k := by
  rw [toList_phrase] at h
  exact h.of_append (fun _ => isDigit_of_mem_numeral) fun _ => isDigit_eq_false_of_mem_words

/-- Only several units are told with a number, and the number is their count. -/
lemma number_counted
    (h : Text.ContainsNumber (counted n unit.one unit.many).phrase.toList k) :
    2 ≤ n ∧ k = n := by
  obtain ⟨hne, hvalue⟩ := digitsValue_numeral h
  unfold counted at hne hvalue
  split at hne
  · exact absurd (numeral_one unit) hne
  · next hmany =>
    rw [if_neg hmany, numeral_many, Text.digitsValue_digits] at hvalue
    exact ⟨by omega, hvalue.symm⟩

/-- A phrase tells a number of seconds. -/
structure TellsSpan (phrase : String) (seconds : Nat) : Prop where
  few : seconds < 45 → phrase = "a few seconds"
  few_iff : "a few seconds".toList <:+: phrase.toList ↔ seconds < 45
  counted : 45 ≤ seconds → ∃ (unit : TimeUnit) (n : Nat),
    phrase = (counted n unit.one unit.many).phrase ∧ unit.Tells n seconds
  /-- A number is the count of a unit that the phrase names, and never one or zero. -/
  number : ∀ n, Text.ContainsNumber phrase.toList n →
    2 ≤ n ∧ ∃ unit : TimeUnit, phrase = countPhrase n unit.plural ∧ unit.Tells n seconds

/-- Below forty-five seconds a span is told as a few seconds. -/
lemma ofSeconds_of_lt (h : seconds < 45) : ofSeconds seconds = fewSeconds :=
  if_pos h

/-- The phrase for any number of seconds, past or ahead, tells them accurately. -/
theorem tellsSpan_phrase (s : Int) : TellsSpan (ofSeconds s.natAbs).phrase s.natAbs where
  few h := congrArg phrase (ofSeconds_of_lt h)
  few_iff := by
    constructor
    · intro h
      have hfew : ofSeconds s.natAbs = fewSeconds :=
        eq_fewSeconds_of_mem (h.subset (by decide))
      by_contra hlong
      obtain ⟨unit, n, hcounted, -⟩ := (band_ofSeconds s.natAbs).tells (by omega)
      rw [hfew] at hcounted
      unfold counted at hcounted
      split at hcounted <;> cases unit <;> cases hcounted
    · intro h
      rw [ofSeconds_of_lt h]
      exact List.infix_rfl
  counted h := by
    obtain ⟨unit, n, hcounted, htells⟩ := (band_ofSeconds s.natAbs).tells h
    exact ⟨unit, n, congrArg phrase hcounted, htells⟩
  number k hk := by
    by_cases hlong : 45 ≤ s.natAbs
    · obtain ⟨unit, n, hcounted, htells⟩ := (band_ofSeconds s.natAbs).tells hlong
      rw [hcounted] at hk ⊢
      obtain ⟨htwo, rfl⟩ := number_counted hk
      refine ⟨htwo, unit, ?_, htells⟩
      rw [← phrase_many, Magnitude.counted, if_neg (by omega)]
    · rw [ofSeconds_of_lt (by omega)] at hk
      exact absurd rfl (digitsValue_numeral hk).1

/-- Eighty-nine minutes and a half are rounded to a single hour. -/
example : (ofSeconds 5370).phrase = "an hour" := by decide

end Magnitude

end ProposalBoard
