import ProposalBoard.Proofs.Calendar
import ProposalBoard.Proofs.Digits
import ProposalBoard.Time.Timestamp

/-!
# Timestamps read back

The text of an instant is read as that instant (`Instant.ofText?_toText`), for all instants, those
in leap seconds and in years of five and six digits among them. Reading takes the parts of a
timestamp off the front of a text one after the other, so there is one lemma for each part with any
text behind it; the whole timestamp is put together from these.
-/

namespace ProposalBoard.Timestamp

open Text

variable {ds rest : List Char} {most n : Nat}

/-! ## Parts -/

/-- A run of digits is read up to its end, or up to the greatest count of digits. -/
lemma readDigits_append (hne : ds ≠ []) (hds : ∀ c ∈ ds, c.isDigit = true)
    (hlength : ds.length ≤ most) (hrest : ds.length = most ∨ EndsDigits rest) :
    readDigits most (ds ++ rest) = some (digitsValue ds, rest) := by
  have htail : EndsDigits (rest.take (most - ds.length)) := by
    rcases hrest with hfull | hends
    · rw [hfull, Nat.sub_self]
      exact endsDigits_nil
    · exact hends.take _
  have htake : ((ds ++ rest).take most).takeWhile Char.isDigit = ds := by
    rw [List.take_append, List.take_of_length_le hlength]
    exact takeWhile_isDigit_append hds htail
  unfold readDigits
  simp only [htake, if_neg hne, List.drop_left]

/-- A number of two digits is read from its padded numeral. -/
lemma readNumber_append (h : n < 100) (rest : List Char) :
    readNumber 2 (paddedDigits 2 n ++ rest) = some (n, rest) := by
  have hlength : (paddedDigits 2 n).length = 2 := length_paddedDigits (by decide) h
  have hne := paddedDigits_ne_nil 2 n
  have hds : ∀ c ∈ paddedDigits 2 n, c.isDigit = true := fun c => isDigit_of_mem_paddedDigits
  unfold readNumber
  rw [trimLeft_append_of_isDigit hne hds,
    readDigits_append hne hds (Nat.le_of_eq hlength) (.inl hlength), digitsValue_paddedDigits]

/-- A mark is read where it stands. -/
lemma readMark_cons {mark : Char} (h : isBlank mark = false) (rest : List Char) :
    readMark mark (mark :: rest) = some rest := by
  unfold readMark
  rw [trimLeft_cons_of_not_isBlank h]
  exact if_pos rfl

/-- A year is read from its written form: four digits, or a sign and all digits up to the mark. -/
lemma readYear_append (year : Int) (hrest : EndsDigits rest) :
    readYear (writeYear year ++ rest) = some (year, rest) := by
  have hne := paddedDigits_ne_nil 4 year.natAbs
  have hds : ∀ c ∈ paddedDigits 4 year.natAbs, c.isDigit = true :=
    fun c => isDigit_of_mem_paddedDigits
  have hlong : (paddedDigits 4 year.natAbs).length ≤
      (paddedDigits 4 year.natAbs ++ rest).length := by
    rw [List.length_append]
    exact Nat.le_add_right _ _
  have hsigned := readDigits_append hne hds hlong (.inr hrest)
  rw [digitsValue_paddedDigits] at hsigned
  unfold readYear writeYear
  by_cases hplain : 0 ≤ year ∧ year ≤ 9999
  · have hlength : (paddedDigits 4 year.natAbs).length = 4 :=
      length_paddedDigits (by decide) (by omega)
    have hplainDigits : readDigits 4 (paddedDigits 4 year.natAbs ++ rest) =
        some (digitsValue (paddedDigits 4 year.natAbs), rest) :=
      readDigits_append hne hds (Nat.le_of_eq hlength) (.inl hlength)
    rw [digitsValue_paddedDigits] at hplainDigits
    rw [if_pos hplain, trimLeft_append_of_isDigit hne hds]
    -- a numeral begins with no sign
    obtain ⟨c, cs, hcs⟩ := List.exists_cons_of_ne_nil hne
    have hdigit : c.isDigit = true := hds c (hcs ▸ List.mem_cons_self)
    have hminus : c ≠ '-' := by
      rintro rfl
      exact absurd hdigit (by decide)
    have hplus : c ≠ '+' := by
      rintro rfl
      exact absurd hdigit (by decide)
    rw [hcs] at hplainDigits ⊢
    rw [List.cons_append] at hplainDigits ⊢
    split
    · next heq => exact absurd (List.cons.inj heq).1 hminus
    · next heq => exact absurd (List.cons.inj heq).1 hplus
    · rw [hplainDigits]
      simp only [Option.map_some, Option.some.injEq, Prod.mk.injEq, and_true]
      omega
  · rw [if_neg hplain, List.cons_append]
    by_cases hnegative : year < 0
    · rw [if_pos hnegative, trimLeft_cons_of_not_isBlank (by decide)]
      simp only [hsigned, Option.map_some, Option.some.injEq, Prod.mk.injEq, and_true]
      omega
    · rw [if_neg hnegative, trimLeft_cons_of_not_isBlank (by decide)]
      simp only [hsigned, Option.map_some, Option.some.injEq, Prod.mk.injEq, and_true]
      omega

/-- A fraction of a few places counts the billionth parts that they stand for. -/
lemma readFraction_paddedDigits {places : Nat} (hplaces : 0 < places ∧ places ≤ 9)
    (h : n < 10 ^ places) (hrest : EndsDigits rest) :
    readFraction ('.' :: paddedDigits places n ++ rest) =
      some (10 ^ (9 - places) * n, rest) := by
  have hlength := length_paddedDigits hplaces.1 h
  have hds : ∀ c ∈ paddedDigits places n, c.isDigit = true := fun c => isDigit_of_mem_paddedDigits
  have hnine : (paddedDigits places n ++ List.replicate 9 '0').take 9 =
      paddedDigits places n ++ List.replicate (9 - places) '0' := by
    rw [List.take_append, List.take_of_length_le (by omega), List.take_replicate, hlength,
      Nat.min_eq_left (by omega)]
  rw [List.cons_append]
  unfold readFraction
  simp only [takeWhile_isDigit_append hds hrest, dropWhile_isDigit_append hds hrest,
    if_neg (paddedDigits_ne_nil places n), hnine, digitsValue_append_zeros,
    digitsValue_paddedDigits]

/-- The nanoseconds are read from the fewest places that they are written with. -/
lemma readFraction_append {nanos : Nat} (h : nanos < 1000000000) (hrest : EndsDigits rest)
    (hpoint : rest.head? ≠ some '.') :
    readFraction (writeFraction nanos ++ rest) = some (nanos, rest) := by
  unfold writeFraction
  by_cases hzero : nanos = 0
  · rw [if_pos hzero, hzero, List.nil_append]
    unfold readFraction
    split
    · exact absurd rfl hpoint
    · rfl
  rw [if_neg hzero]
  by_cases hmillis : nanos % 1000000 = 0
  · rw [if_pos hmillis, readFraction_paddedDigits (by decide) (by omega) hrest]
    simp only [Option.some.injEq, Prod.mk.injEq, and_true]
    omega
  rw [if_neg hmillis]
  by_cases hmicros : nanos % 1000 = 0
  · rw [if_pos hmicros, readFraction_paddedDigits (by decide) (by omega) hrest]
    simp only [Option.some.injEq, Prod.mk.injEq, and_true]
    omega
  · rw [if_neg hmicros, readFraction_paddedDigits (by decide) (by omega) hrest]
    simp

/-! ## Whole timestamps -/

/-- A timestamp of a clock at universal time is read from its text. -/
theorem ofText?_toText {t : Timestamp} (h : t.Exists) (hoffset : t.offset = 0)
    (hnanos : t.nanos < 1000000000) : ofText? t.toText = some t := by
  obtain ⟨⟨year, month, day⟩, hour, minute, second, nanos, offset⟩ := t
  obtain ⟨⟨-, hmonth, -, hday⟩, -, -, hhour, hminute, hsecond, -⟩ := h
  simp only at hmonth hday hhour hminute hsecond hoffset hnanos
  have hshort : day ≤ 31 := by
    refine Nat.le_trans hday ?_
    unfold Date.daysInMonth
    split
    · split <;> decide
    all_goals decide
  subst hoffset
  unfold ofText? toText
  simp only [String.toList_ofList, List.append_assoc, List.cons_append]
  rw [readYear_append year (endsDigits_cons (by decide))]
  dsimp only [Option.bind_eq_bind, Option.bind_some]
  rw [readMark_cons (by decide), Option.bind_some, readNumber_append (by omega), Option.bind_some,
    readMark_cons (by decide), Option.bind_some, readNumber_append (by omega), Option.bind_some]
  simp only [readDivider, Option.bind_some]
  rw [readNumber_append (by omega), Option.bind_some, readMark_cons (by decide), Option.bind_some,
    readNumber_append (by omega), Option.bind_some, readMark_cons (by decide), Option.bind_some,
    readNumber_append (by omega), Option.bind_some,
    readFraction_append hnanos (endsDigits_cons (by decide)) (by decide), Option.bind_some]
  rfl

end ProposalBoard.Timestamp

namespace ProposalBoard.Instant

/-- The timestamp of an instant is one that exists. -/
lemma exists_ofInstant (t : Instant) : (Timestamp.ofInstant t).Exists := by
  obtain ⟨hfirst, hlast⟩ := t.seconds_range
  obtain ⟨hfirstDay, hlastDay⟩ := range_eq
  have hdate := Date.exists_ofDayNumber (t.seconds / 86400)
  have hday := Date.toDayNumber_ofDayNumber (t.seconds / 86400)
  have hlow : -262143 ≤ (Date.ofDayNumber (t.seconds / 86400)).year := by
    apply Date.le_year_of_toDayNumber_le hdate
    rw [hday]
    unfold firstSecond at hfirstDay
    omega
  have hhigh : (Date.ofDayNumber (t.seconds / 86400)).year ≤ 262142 := by
    apply Date.year_le_of_toDayNumber_le hdate
    rw [hday]
    unfold lastSecond at hlastDay
    omega
  have hrange : 0 ≤ t.seconds % 86400 ∧ t.seconds % 86400 < 86400 := by omega
  refine ⟨hdate, hlow, hhigh, ?_, ?_, ?_, Int.negSucc_lt_zero _, (by decide : (0 : Int) < 86400)⟩
  · simp only [Timestamp.ofInstant]
    omega
  · simp only [Timestamp.ofInstant]
    omega
  · simp only [Timestamp.ofInstant]
    split <;> omega

/-- Day and time of day make up the seconds again, a leap second counting as the one before it. -/
lemma seconds_ofInstant (t : Instant) :
    (Timestamp.ofInstant t).date.toDayNumber * 86400 + (Timestamp.ofInstant t).hour * 3600 +
        (Timestamp.ofInstant t).minute * 60 + min (Timestamp.ofInstant t).second 59 -
      (Timestamp.ofInstant t).offset = t.seconds := by
  have hday := Date.toDayNumber_ofDayNumber (t.seconds / 86400)
  have hleap59 := t.leap_at_59
  simp only [Timestamp.ofInstant, hday]
  split
  · next hleap =>
    have hlast := hleap59 (of_decide_eq_true hleap)
    omega
  · omega

/-- The nanoseconds of an instant are those of its timestamp, with a second more where that tells
second sixty. -/
lemma nanos_ofInstant (t : Instant) :
    (if (Timestamp.ofInstant t).second = 60 then (Timestamp.ofInstant t).nanos + 1000000000
      else (Timestamp.ofInstant t).nanos) = t.nanos := by
  have hlt := t.nanos_lt
  by_cases hleap : t.isLeap = true
  · have hlong : 1000000000 ≤ t.nanos := of_decide_eq_true hleap
    have hsecond : (Timestamp.ofInstant t).second = 60 := if_pos hleap
    rw [if_pos hsecond]
    simp only [Timestamp.ofInstant]
    omega
  · have hshort : ¬1000000000 ≤ t.nanos := fun hlong => hleap (decide_eq_true hlong)
    have hsecond : (Timestamp.ofInstant t).second = (t.seconds % 86400).toNat % 60 := if_neg hleap
    rw [if_neg (by omega)]
    simp only [Timestamp.ofInstant]
    omega

/-- The timestamp of an instant denotes it. -/
lemma instant?_ofInstant (t : Instant) : (Timestamp.ofInstant t).instant? = some t := by
  unfold Timestamp.instant?
  rw [if_pos (exists_ofInstant t)]
  simp only [seconds_ofInstant, nanos_ofInstant]
  unfold ofParts?
  rw [dif_pos ⟨t.seconds_range, t.nanos_lt, t.leap_at_59⟩]

/-- The text of an instant is read as that instant. -/
theorem ofText?_toText (t : Instant) : ofText? t.toText = some t := by
  have hnanos : (Timestamp.ofInstant t).nanos < 1000000000 := Nat.mod_lt _ (by decide)
  unfold ofText? toText
  rw [Timestamp.ofText?_toText (exists_ofInstant t) rfl hnanos, Option.bind_some]
  exact instant?_ofInstant t

end ProposalBoard.Instant
