import ProposalBoard.Proofs.Magnitude

/-!
# Order of relative times

A relative time in words reads as a direction and a magnitude, and in no other way
(`RelativeTime.text_injective`), so that the words have an order in time: what is past before what
is ahead, the past by falling magnitudes and the rest by rising ones. The main statement
`humanized_keeps_order` says that the words never go backwards: a longer span has no smaller phrase,
a later instant is never told by words for an earlier time, and two instants at least a second apart
see each other in opposite directions under one phrase.
-/

namespace ProposalBoard

/-- No phrase for a magnitude begins like the word in front of times ahead. -/
lemma Magnitude.head?_phrase_ne (m : Magnitude) : m.phrase.toList.head? ≠ some 'i' := by
  rw [toList_phrase]
  cases m with
  | minutes n | hours n | days n | months n | years n =>
    obtain ⟨d, ds, hdigits, hdigit⟩ := Text.exists_digits_eq_cons n
    simp only [numeral, hdigits]
    rintro ⟨⟩
    cases hdigit
  | _ => decide

/-- How far an instant is from now, as it is told. -/
structure RelativeTime where
  ahead : Bool
  magnitude : Magnitude

namespace RelativeTime

variable {x y : RelativeTime} {a b : Int}

/-- The words for a relative time. -/
def text (x : RelativeTime) : String :=
  if x.ahead then "in " ++ x.magnitude.phrase else x.magnitude.phrase ++ " ago"

/-- A relative time is not later than another. What is past comes before what is ahead, and in the
past the larger of two magnitudes is the earlier one. -/
protected def NotLater (x y : RelativeTime) : Prop :=
  match x.ahead, y.ahead with
  | false, true => True
  | true, false => False
  | true, true => x.magnitude ≤ y.magnitude
  | false, false => y.magnitude ≤ x.magnitude

instance : LE RelativeTime := ⟨RelativeTime.NotLater⟩

/-- The relative time of a number of seconds, negative ones being past. -/
def ofSeconds (seconds : Int) : RelativeTime :=
  ⟨decide (0 ≤ seconds), .ofSeconds seconds.natAbs⟩

/-- An instant is put into words by its relative time. -/
lemma humanized_eq (instant now : Instant) :
    humanized instant now = (ofSeconds (instant.secondsSince now)).text := by
  unfold humanized text ofSeconds
  simp only [decide_eq_true_eq]

/-- What is past and what is ahead are told by different words. -/
lemma text_past_ne_text_ahead (m m' : Magnitude) : text ⟨false, m⟩ ≠ text ⟨true, m'⟩ := by
  intro h
  have htext : (m.phrase ++ " ago").toList = ("in " ++ m'.phrase).toList :=
    congrArg String.toList h
  rw [String.toList_append, String.toList_append] at htext
  have hahead : ("in ".toList ++ m'.phrase.toList).head? = some 'i' := rfl
  have hhead := m.head?_phrase_ne
  rw [← htext] at hahead
  cases hphrase : m.phrase.toList with
  | nil =>
    rw [hphrase] at hahead
    exact absurd hahead (by decide)
  | cons c cs =>
    rw [hphrase] at hahead hhead
    exact hhead hahead

/-- Words for a relative time read in one way only. -/
lemma text_injective : Function.Injective text := by
  rintro ⟨ahead, m⟩ ⟨ahead', m'⟩ h
  cases ahead with
  | true =>
    cases ahead' with
    | true =>
      have hm : m = m' := Magnitude.phrase_injective ((String.append_right_inj "in ").mp h)
      rw [hm]
    | false => exact absurd h.symm (text_past_ne_text_ahead m' m)
  | false =>
    cases ahead' with
    | true => exact absurd h (text_past_ne_text_ahead m m')
    | false =>
      have hm : m = m' := Magnitude.phrase_injective ((String.append_left_inj " ago").mp h)
      rw [hm]

/-- More seconds are not told as an earlier time. -/
lemma ofSeconds_mono (h : a ≤ b) : ofSeconds a ≤ ofSeconds b := by
  show RelativeTime.NotLater _ _
  unfold RelativeTime.NotLater ofSeconds
  by_cases hb : 0 ≤ b
  · by_cases ha : 0 ≤ a
    · simp only [ha, hb, decide_true]
      exact Magnitude.ofSeconds_mono (by omega)
    · simp [ha, hb]
  · have ha : ¬0 ≤ a := by omega
    simp only [ha, hb, decide_false]
    exact Magnitude.ofSeconds_mono (by omega)

/-- Seen from the other side, a time other than now is as far in the other direction. -/
lemma ofSeconds_neg (ha : a ≠ 0) :
    ofSeconds (-a) = ⟨!(ofSeconds a).ahead, (ofSeconds a).magnitude⟩ := by
  have hahead : decide (0 ≤ -a) = !decide (0 ≤ a) := by
    rw [← decide_not, decide_eq_decide]
    omega
  unfold ofSeconds
  rw [Int.natAbs_neg, hahead]

end RelativeTime

namespace Instant

variable {t u now : Instant}

/-- Outside of leap seconds, instants are apart by what their seconds and nanoseconds are. -/
lemma nanosSince_of_not_leap (ht : t.isLeap = false) (hnow : now.isLeap = false) :
    t.nanosSince now =
      (t.seconds - now.seconds) * 1000000000 + ((t.nanos : Int) - now.nanos) := by
  unfold nanosSince leapAdjustment
  simp [ht, hnow]

/-- Outside of leap seconds, a later instant is no fewer seconds from now. -/
lemma secondsSince_mono (ht : t.isLeap = false) (hu : u.isLeap = false)
    (hnow : now.isLeap = false) (h : t ≤ u) : t.secondsSince now ≤ u.secondsSince now := by
  apply Int.tdiv_le_tdiv (by decide)
  rw [nanosSince_of_not_leap ht hnow, nanosSince_of_not_leap hu hnow]
  have htnanos := of_decide_eq_false ht
  rw [le_def] at h
  omega

/-- Seen from the other side, the nanoseconds between two instants have the other sign. -/
lemma nanosSince_neg (t now : Instant) : now.nanosSince t = -t.nanosSince now := by
  unfold nanosSince leapAdjustment
  simp only
  split_ifs <;> omega

/-- Seen from the other side, the seconds between two instants have the other sign. -/
lemma secondsSince_neg (t now : Instant) : now.secondsSince t = -t.secondsSince now := by
  unfold secondsSince
  rw [nanosSince_neg, Int.neg_tdiv]

/-- Instants at least a second apart are apart by some seconds. -/
lemma secondsSince_ne_zero (h : 1000000000 ≤ (t.nanosSince now).natAbs) :
    t.secondsSince now ≠ 0 := by
  have hseconds : (t.secondsSince now).natAbs = (t.nanosSince now).natAbs / 1000000000 :=
    Int.natAbs_tdiv _ _
  omega

end Instant

open RelativeTime (text text_injective humanized_eq)

/-- The words for spans and for relative times keep the order of time. A longer span has no smaller
phrase, and every phrase is one of a unit or of two and more. The words for an instant read in one
way only, and those for a later one read as no earlier time, as long as no leap second is involved.
For instants at least a second apart, the words from both sides have one phrase and opposite
directions. -/
theorem humanized_keeps_order :
    (∀ a b : Int, a.natAbs ≤ b.natAbs → ∀ m m' : Magnitude,
      m.phrase = (Magnitude.ofSeconds a.natAbs).phrase →
      m'.phrase = (Magnitude.ofSeconds b.natAbs).phrase → m.IsTold ∧ m'.IsTold ∧ m ≤ m') ∧
    (∀ instant now : Instant, ∃ x : RelativeTime, x.magnitude.IsTold ∧
      ∀ y : RelativeTime, y.text = humanized instant now ↔ y = x) ∧
    (∀ t u now : Instant, t.isLeap = false → u.isLeap = false → now.isLeap = false → t ≤ u →
      ∀ x y : RelativeTime, x.text = humanized t now → y.text = humanized u now → x ≤ y) ∧
    ∀ t now : Instant, 1000000000 ≤ (t.nanosSince now).natAbs →
      ∃ (ahead : Bool) (magnitude : Magnitude),
        humanized t now = text ⟨ahead, magnitude⟩ ∧ humanized now t = text ⟨!ahead, magnitude⟩ := by
  refine ⟨?_, ?_, ?_, ?_⟩
  · intro a b h m m' hm hm'
    rw [Magnitude.phrase_injective hm, Magnitude.phrase_injective hm']
    exact ⟨Magnitude.isTold_ofSeconds _, Magnitude.isTold_ofSeconds _, Magnitude.ofSeconds_mono h⟩
  · intro instant now
    refine ⟨.ofSeconds (instant.secondsSince now), Magnitude.isTold_ofSeconds _, fun y => ?_⟩
    rw [humanized_eq]
    exact text_injective.eq_iff
  · intro t u now ht hu hnow h x y hx hy
    rw [humanized_eq] at hx hy
    rw [text_injective hx, text_injective hy]
    exact RelativeTime.ofSeconds_mono (Instant.secondsSince_mono ht hu hnow h)
  · intro t now h
    refine ⟨_, _, humanized_eq t now, ?_⟩
    rw [humanized_eq, Instant.secondsSince_neg,
      RelativeTime.ofSeconds_neg (Instant.secondsSince_ne_zero h)]
    rfl

/-- Where minutes change to an hour, the longer span has the larger phrase. An hour ago is before
two minutes from now, and seen from an hour ago now is as far ahead. -/
theorem humanized_keeps_order_hourAgo :
    ((2669 : Int).natAbs ≤ (-2670 : Int).natAbs ∧ Magnitude.minutes 44 ≤ Magnitude.hour) ∧
    ∃ t u : Instant, t.isLeap = false ∧ u.isLeap = false ∧ t ≤ u ∧
      humanized t .epoch = "an hour ago" ∧ humanized u .epoch = "in 2 minutes" ∧
      (⟨false, .hour⟩ : RelativeTime) ≤ ⟨true, .minutes 2⟩ ∧
      1000000000 ≤ (t.nanosSince .epoch).natAbs ∧
      ∃ (ahead : Bool) (magnitude : Magnitude),
        humanized t .epoch = text ⟨ahead, magnitude⟩ ∧
        humanized .epoch t = text ⟨!ahead, magnitude⟩ := by
  obtain ⟨hspans, -, horder, hsides⟩ := humanized_keeps_order
  have ht : humanized ⟨-2670, 0, by decide, by decide, by decide⟩ .epoch = "an hour ago" := by
    decide
  have hu : humanized ⟨90, 0, by decide, by decide, by decide⟩ .epoch = "in 2 minutes" := by decide
  refine ⟨⟨by decide, (hspans 2669 (-2670) (by decide) _ _ (by decide) (by decide)).2.2⟩, _, _,
    by decide, by decide, by decide, ht, hu, ?_, by decide, hsides _ _ (by decide)⟩
  refine horder ⟨-2670, 0, by decide, by decide, by decide⟩ ⟨90, 0, by decide, by decide, by decide⟩
    .epoch (by decide) (by decide) (by decide) (by decide) _ _ ?_ ?_
  · rw [ht]
    decide
  · rw [hu]
    decide

end ProposalBoard
