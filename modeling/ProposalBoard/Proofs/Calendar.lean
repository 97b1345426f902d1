import Mathlib.Tactic.IntervalCases
import Mathlib.Tactic.Lemma
import ProposalBoard.Time.Instant

/-!
# Day numbers and dates

The date of a day number is one that the calendar has, and its day number is the one it was found
for (`Date.toDayNumber_ofDayNumber`). The year of a day is found by a quotient that is corrected for
the leap days in front. It is compared here with the plain division of a cycle into centuries, of a
century into spans of four years, and of those into years (`Date.YearDay`).
-/

namespace ProposalBoard.Date

/-- A day of a cycle of four hundred years: so many centuries, spans of four years, years and days
from its start. A leap day comes last in its year, in its span and in its century. -/
structure YearDay (dayOfCycle centuries spans years days : Int) : Prop where
  centuries_range : 0 ≤ centuries ∧ centuries ≤ 3
  spans_range : 0 ≤ spans ∧ spans ≤ 24
  years_range : 0 ≤ years ∧ years ≤ 3
  days_range : 0 ≤ days ∧ days ≤ 365
  dayOfCycle_eq : dayOfCycle = 36524 * centuries + 1461 * spans + 365 * years + days
  leap : days = 365 → years = 3 ∧ (spans = 24 → centuries = 3)

/-- Every day of a cycle has its place in a century, a span of years and a year. -/
lemma exists_yearDay {d : Int} (hd : 0 ≤ d) (hlt : d < 146097) :
    ∃ c s y r, YearDay d c s y r := by
  -- the last day of a cycle, of a span and of a century belongs to the part that it ends
  obtain ⟨c, hc⟩ : ∃ c, c = min (d / 36524) 3 := ⟨_, rfl⟩
  obtain ⟨s, hs⟩ : ∃ s, s = (d - 36524 * c) / 1461 := ⟨_, rfl⟩
  obtain ⟨y, hy⟩ : ∃ y, y = min ((d - 36524 * c - 1461 * s) / 365) 3 := ⟨_, rfl⟩
  refine ⟨c, s, y, d - 36524 * c - 1461 * s - 365 * y, ?_, ?_, ?_, ?_, ?_, ?_⟩
  all_goals omega

namespace YearDay

variable {d c s y r : Int}

/-- The year of a cycle by the corrected quotient. -/
lemma yearOfCycle_eq (h : YearDay d c s y r) :
    (d - d / 1460 + d / 36524 - d / 146096) / 365 = 100 * c + 4 * s + y := by
  obtain ⟨hc, hs, hy, hr, hd, hleap⟩ := h
  by_cases hlate : 24 * c + s + 365 * y + r < 1460
  · have hspans : d / 1460 = 25 * c + s := by omega
    have hcentury : d / 36524 = c := by omega
    have hcycle : d / 146096 = 0 := by omega
    rw [hspans, hcentury, hcycle]
    omega
  · -- late in the last year of a span the quotient is corrected for its leap day beforehand
    have hspans : d / 1460 = 25 * c + s + 1 := by omega
    have hyears : y = 3 := by omega
    by_cases hend : s = 24 ∧ r = 365
    · have hcentury : d / 36524 = 4 := by omega
      have hcycle : d / 146096 = 1 := by omega
      rw [hspans, hcentury, hcycle]
      omega
    · have hcentury : d / 36524 = c := by omega
      have hcycle : d / 146096 = 0 := by omega
      rw [hspans, hcentury, hcycle]
      omega

/-- The days before a year of a cycle are those of the centuries, spans and years in front of it. -/
lemma daysBeforeYear_eq (h : YearDay d c s y r) :
    daysBeforeYear (100 * c + 4 * s + y) = 36524 * c + 1461 * s + 365 * y := by
  obtain ⟨hc, hs, hy, -, -, -⟩ := h
  unfold daysBeforeYear
  omega

/-- A leap day is in a year that ends in a leap year by the usual count. -/
lemma isLeapYear_succ (h : YearDay d c s y r) (hr : r = 365) (cycle : Int) :
    isLeapYear (cycle * 400 + (100 * c + 4 * s + y) + 1) = true := by
  obtain ⟨hc, hs, hy, -, -, hleap⟩ := h
  obtain ⟨hlast, hcentury⟩ := hleap hr
  have hfour : (cycle * 400 + (100 * c + 4 * s + y) + 1) % 4 = 0 := by omega
  unfold isLeapYear
  rw [Bool.and_eq_true, Bool.or_eq_true, decide_eq_true_eq, decide_eq_true_eq, decide_eq_true_eq]
  refine ⟨hfour, ?_⟩
  rcases Int.lt_or_le s 24 with hlt | hge
  · left
    omega
  · right
    have hthree := hcentury (by omega)
    omega

end YearDay

/-- A day of a year that begins in March is in one of twelve months. -/
lemma month_range {r : Int} (hr : 0 ≤ r ∧ r ≤ 365) :
    0 ≤ (5 * r + 2) / 153 ∧ (5 * r + 2) / 153 ≤ 11 := by
  omega

/-- The days of a month are counted from one. -/
lemma day_pos (r : Int) : 1 ≤ r - daysBeforeMonth ((5 * r + 2) / 153) + 1 := by
  unfold daysBeforeMonth
  omega

/-- A date in the months from March to December exists. -/
lemma exists_mk_early {year r : Int} (hr : 0 ≤ r ∧ r ≤ 365) (hmonth : (5 * r + 2) / 153 < 10) :
    (Date.mk year ((5 * r + 2) / 153 + 3).toNat
      (r - daysBeforeMonth ((5 * r + 2) / 153) + 1).toNat).Exists := by
  obtain ⟨m, hm⟩ : ∃ m, m = (5 * r + 2) / 153 := ⟨_, rfl⟩
  rw [← hm] at hmonth ⊢
  have hfirst : 153 * m ≤ 5 * r + 2 := by omega
  have hlast : 5 * r + 2 < 153 * m + 153 := by omega
  have hnonneg : 0 ≤ m := by omega
  unfold Exists daysBeforeMonth
  interval_cases m <;> simp [daysInMonth] <;> omega

/-- A date in January or February exists, on a leap day only in a leap year. -/
lemma exists_mk_late {year r : Int} (hr : 0 ≤ r ∧ r ≤ 365) (hmonth : ¬(5 * r + 2) / 153 < 10)
    (hleap : r = 365 → isLeapYear year = true) :
    (Date.mk year ((5 * r + 2) / 153 - 9).toNat
      (r - daysBeforeMonth ((5 * r + 2) / 153) + 1).toNat).Exists := by
  obtain ⟨m, hm⟩ : ∃ m, m = (5 * r + 2) / 153 := ⟨_, rfl⟩
  rw [← hm] at hmonth ⊢
  have hfirst : 153 * m ≤ 5 * r + 2 := by omega
  have hlast : 5 * r + 2 < 153 * m + 153 := by omega
  have hupper : m ≤ 11 := by omega
  unfold Exists daysBeforeMonth
  interval_cases m
  · simp [daysInMonth]
    omega
  · rcases Int.lt_or_eq_of_le hr.2 with hlt | heq
    · simp only [daysInMonth]
      split <;> simp <;> omega
    · simp [daysInMonth, hleap heq, heq]

/-- The date of a day number in the parts of its cycle. -/
lemma ofDayNumber_eq {n d c s y r : Int} (hd : d = (n + daysBefore1970) % daysPerCycle)
    (h : YearDay d c s y r) :
    ofDayNumber n =
      if (5 * r + 2) / 153 < 10 then
        ⟨(n + daysBefore1970) / daysPerCycle * 400 + (100 * c + 4 * s + y),
          ((5 * r + 2) / 153 + 3).toNat, (r - daysBeforeMonth ((5 * r + 2) / 153) + 1).toNat⟩
      else
        ⟨(n + daysBefore1970) / daysPerCycle * 400 + (100 * c + 4 * s + y) + 1,
          ((5 * r + 2) / 153 - 9).toNat, (r - daysBeforeMonth ((5 * r + 2) / 153) + 1).toNat⟩ := by
  have hdays : d - daysBeforeYear (100 * c + 4 * s + y) = r := by
    rw [h.daysBeforeYear_eq, h.dayOfCycle_eq]
    omega
  unfold ofDayNumber
  simp only [← hd, h.yearOfCycle_eq, hdays]

/-- Every day number falls on a day of its cycle. -/
lemma exists_yearDay_of_dayNumber (n : Int) :
    ∃ c s y r, YearDay ((n + daysBefore1970) % daysPerCycle) c s y r := by
  apply exists_yearDay
  · exact Int.emod_nonneg _ (by decide)
  · exact Int.emod_lt_of_pos _ (by decide)

/-- The date of a day number is one that the calendar has. -/
theorem exists_ofDayNumber (n : Int) : (ofDayNumber n).Exists := by
  obtain ⟨c, s, y, r, h⟩ := exists_yearDay_of_dayNumber n
  rw [ofDayNumber_eq rfl h]
  split
  · next hmonth => exact exists_mk_early h.days_range hmonth
  · next hmonth => exact exists_mk_late h.days_range hmonth fun hr => h.isLeapYear_succ hr _

/-- The day number of the date of a day number is that day number. -/
theorem toDayNumber_ofDayNumber (n : Int) : (ofDayNumber n).toDayNumber = n := by
  obtain ⟨c, s, y, r, h⟩ := exists_yearDay_of_dayNumber n
  obtain ⟨hlow, hhigh⟩ := month_range h.days_range
  have hfirst := day_pos r
  have hyear : 0 ≤ 100 * c + 4 * s + y ∧ 100 * c + 4 * s + y < 400 := by
    obtain ⟨hc, hs, hy, -, -, -⟩ := h
    omega
  have hcycle := Int.mul_ediv_add_emod (n + daysBefore1970) daysPerCycle
  rw [Int.mul_comm] at hcycle
  have hdays := h.daysBeforeYear_eq
  have hday := h.dayOfCycle_eq
  rw [ofDayNumber_eq rfl h]
  generalize (n + daysBefore1970) / daysPerCycle = cycle at *
  generalize (5 * r + 2) / 153 = m at *
  generalize 100 * c + 4 * s + y = year at *
  have hdivision : (cycle * 400 + year) / 400 = cycle := by omega
  have hremainder : (cycle * 400 + year) % 400 = year := by omega
  split
  · next hmonth =>
    have hname : ¬(m + 3).toNat ≤ 2 := by omega
    have hcount : ((((m + 3).toNat : Int)) + 9) % 12 = m := by omega
    simp only [toDayNumber, hname, if_false, hcount, hdivision, hremainder, hdays]
    omega
  · next hmonth =>
    have hname : (m - 9).toNat ≤ 2 := by omega
    have hcount : ((((m - 9).toNat : Int)) + 9) % 12 = m := by omega
    simp only [toDayNumber, hname, if_true, hcount, Int.add_sub_cancel, hdivision, hremainder,
      hdays]
    omega

/-! ## Years -/

/-- The days before a year that begins in March, counted from the start of year zero. -/
def yearStart (year : Int) : Int :=
  year / 400 * daysPerCycle + daysBeforeYear (year % 400)

/-- A later year starts at least 365 days later. -/
lemma yearStart_lt {a b : Int} (h : a < b) : yearStart a + 365 ≤ yearStart b := by
  have hcycle : a / 400 ≤ b / 400 := Int.ediv_le_ediv (by decide) (Int.le_of_lt h)
  unfold yearStart daysPerCycle daysBeforeYear
  rcases Int.lt_or_eq_of_le hcycle with hlt | heq
  · omega
  · omega

/-- Years start in their order. -/
lemma yearStart_le {a b : Int} (h : a ≤ b) : yearStart a ≤ yearStart b := by
  rcases Int.lt_or_eq_of_le h with hlt | rfl
  · have hstart := yearStart_lt hlt
    omega
  · exact Int.le_refl _

/-- The day number of a date, by the year from March on that it falls in. The first two months
come last in the year before. -/
lemma toDayNumber_range {d : Date} (h : d.Exists) :
    (d.month ≤ 2 ∧ yearStart (d.year - 1) + 306 ≤ d.toDayNumber + daysBefore1970 ∧
        d.toDayNumber + daysBefore1970 ≤ yearStart (d.year - 1) + 365) ∨
      (¬d.month ≤ 2 ∧ yearStart d.year ≤ d.toDayNumber + daysBefore1970 ∧
        d.toDayNumber + daysBefore1970 ≤ yearStart d.year + 305) := by
  obtain ⟨year, month, day⟩ := d
  obtain ⟨hfirst, hlast, hday, hlength⟩ := h
  simp only at hfirst hlast hday hlength
  by_cases hmonth : month ≤ 2
  · refine .inl ⟨hmonth, ?_⟩
    have hbound : month = 1 ∧ day ≤ 31 ∨ month = 2 ∧ day ≤ 29 := by
      interval_cases month
      · exact .inl ⟨rfl, hlength⟩
      · simp only [daysInMonth] at hlength
        split at hlength <;> omega
    simp only [toDayNumber, hmonth, if_true, yearStart, daysBeforeMonth]
    omega
  · refine .inr ⟨hmonth, ?_⟩
    have hbound : day ≤ 31 := by
      refine Nat.le_trans hlength ?_
      interval_cases month <;> simp [daysInMonth] at hmonth ⊢
    simp only [toDayNumber, hmonth, if_false, yearStart, daysBeforeMonth]
    omega

/-- The first of January comes 306 days after the March in which the year before started. -/
lemma toDayNumber_firstDay (year : Int) :
    (Date.mk year 1 1).toDayNumber + daysBefore1970 = yearStart (year - 1) + 306 := by
  simp [toDayNumber, yearStart, daysBeforeMonth]

/-- The last of December comes 305 days after the March in which its year started. -/
lemma toDayNumber_lastDay (year : Int) :
    (Date.mk year 12 31).toDayNumber + daysBefore1970 = yearStart year + 305 := by
  simp [toDayNumber, yearStart, daysBeforeMonth]
  omega

/-- A date on or after the first day of a year is not in an earlier year. -/
lemma le_year_of_toDayNumber_le {d : Date} (h : d.Exists) {year : Int}
    (hday : (Date.mk year 1 1).toDayNumber ≤ d.toDayNumber) : year ≤ d.year := by
  by_contra hyear
  have hfirst := toDayNumber_firstDay year
  rcases toDayNumber_range h with ⟨-, -, hhigh⟩ | ⟨-, -, hhigh⟩
  · have hstart := yearStart_lt (a := d.year - 1) (b := year - 1) (by omega)
    omega
  · have hstart := yearStart_le (a := d.year) (b := year - 1) (by omega)
    omega

/-- A date on or before the last day of a year is not in a later year. -/
lemma year_le_of_toDayNumber_le {d : Date} (h : d.Exists) {year : Int}
    (hday : d.toDayNumber ≤ (Date.mk year 12 31).toDayNumber) : d.year ≤ year := by
  by_contra hyear
  have hlast := toDayNumber_lastDay year
  rcases toDayNumber_range h with ⟨-, hlow, -⟩ | ⟨-, hlow, -⟩
  · have hstart := yearStart_le (a := year) (b := d.year - 1) (by omega)
    omega
  · have hstart := yearStart_lt (a := year) (b := d.year) (by omega)
    omega

end ProposalBoard.Date
