import BankedZ80.Hbios.Calendar
import Mathlib.Tactic.IntervalCases

/-!
# Dates of the Gregorian calendar

The calendar itself is the rule of leap years with the lengths of the months: `Date.count` adds up
whole years from 1970 and whole months, and knows nothing of eras or of years that begin in March.

* A number of days is a year from March on and a day of it (`exists_marchDay`), by eras of 400 years,
  centuries, cycles of four years and single years (`EraDay`).
* A day of such a year is a date that counts the same, in the calendar year of the same number or the
  next one (`ofMarch_spring`, `ofMarch_winter`).
* So the date of a number of days is in the calendar and counts that number (`Date.ofDays_date`), and
  later dates count more (`Date.count_lt`).
-/

namespace BankedZ80

/-! ### The calendar -/

/-- Every fourth year is a leap year, but of the full centuries only every fourth. -/
def IsLeapYear (year : Nat) : Prop := year % 4 = 0 ∧ (year % 100 ≠ 0 ∨ year % 400 = 0)

instance (year : Nat) : Decidable (IsLeapYear year) := inferInstanceAs (Decidable (_ ∧ _))

def leapDays (year : Nat) : Nat := if IsLeapYear year then 1 else 0

def daysInYear (year : Nat) : Nat := 365 + leapDays year

def daysInMonth (year month : Nat) : Nat :=
  match month with
  | 2 => 28 + leapDays year
  | 4 | 6 | 9 | 11 => 30
  | _ => 31

/-- Days from the beginning of 1970 to the beginning of a year. -/
def daysBeforeYear (year : Nat) : Nat := ((List.range' 1970 (year - 1970)).map daysInYear).sum

/-- Days from the beginning of a year to the beginning of a month. -/
def daysBeforeMonth (year month : Nat) : Nat :=
  ((List.range' 1 (month - 1)).map (daysInMonth year)).sum

namespace Date

/-- A date from 1970 on that is in the calendar. -/
structure IsValid (d : Date) : Prop where
  since : 1970 ≤ d.year
  month : 1 ≤ d.month ∧ d.month ≤ 12
  day : 1 ≤ d.day ∧ d.day ≤ daysInMonth d.year d.month

/-- Days from the first of January 1970 to a date. -/
def count (d : Date) : Nat :=
  daysBeforeYear d.year + daysBeforeMonth d.year d.month + (d.day - 1)

end Date

theorem leapDays_le (year : Nat) : leapDays year ≤ 1 := by
  unfold leapDays
  split <;> omega

theorem daysInMonth_le (year month : Nat) : daysInMonth year month ≤ 31 := by
  have leap := leapDays_le year
  unfold daysInMonth
  split <;> omega

theorem daysBeforeYear_succ {year : Nat} (h : 1970 ≤ year) :
    daysBeforeYear (year + 1) = daysBeforeYear year + daysInYear year := by
  have more : year + 1 - 1970 = year - 1970 + 1 := by omega
  have last : 1970 + (year - 1970) = year := by omega
  unfold daysBeforeYear
  rw [more, List.range'_1_concat, last]
  simp

theorem daysBeforeMonth_succ {year month : Nat} (h : 1 ≤ month) :
    daysBeforeMonth year (month + 1) = daysBeforeMonth year month + daysInMonth year month := by
  have more : month + 1 - 1 = month - 1 + 1 := by omega
  have last : 1 + (month - 1) = month := by omega
  unfold daysBeforeMonth
  rw [more, List.range'_1_concat, last]
  simp

/-! ### Years from March on -/

/-- Days from the first of March of the year 0 to the first of March of a year. -/
def daysToMarch (year : Nat) : Nat := 365 * year + year / 4 - year / 100 + year / 400

theorem daysToMarch_succ (year : Nat) :
    daysToMarch (year + 1) = daysToMarch year + 365 + leapDays (year + 1) := by
  unfold leapDays daysToMarch
  split
  · next leap =>
      obtain ⟨fourth, plain | full⟩ := leap
      · have fours : (year + 1) / 4 = year / 4 + 1 := by omega
        have centuries : (year + 1) / 100 = year / 100 := by omega
        have eras : (year + 1) / 400 = year / 400 := by omega
        omega
      · have fours : (year + 1) / 4 = year / 4 + 1 := by omega
        have centuries : (year + 1) / 100 = year / 100 + 1 := by omega
        have eras : (year + 1) / 400 = year / 400 + 1 := by omega
        omega
  · next common =>
      rcases Decidable.not_and_iff_or_not.1 common with other | century
      · have fours : (year + 1) / 4 = year / 4 := by omega
        have centuries : (year + 1) / 100 = year / 100 := by omega
        have eras : (year + 1) / 400 = year / 400 := by omega
        omega
      · obtain ⟨full, other⟩ := not_or.1 century
        have fours : (year + 1) / 4 = year / 4 + 1 := by omega
        have centuries : (year + 1) / 100 = year / 100 + 1 := by omega
        have eras : (year + 1) / 400 = year / 400 := by omega
        omega

/-- The year that begins in January is two months ahead of the one that begins in March. -/
theorem daysBeforeYear_add {year : Nat} (h : 1970 ≤ year) :
    daysBeforeYear year + 59 + leapDays year + epochOffset = daysToMarch year := by
  induction year, h using Nat.le_induction with
  | base => rfl
  | succ year h ih =>
      rw [daysBeforeYear_succ h, daysToMarch_succ, ← ih]
      unfold daysInYear
      omega

/-! ### Eras -/

/-- A day of an era by its century, cycle of four years, year of the cycle and day of that year. A
century has a day less than 25 cycles, except for the last one; only the last year of a cycle has 366
days. -/
structure EraDay (dayOfEra century cycle year day : Nat) : Prop where
  sum : dayOfEra = 36524 * century + 1461 * cycle + 365 * year + day
  century_le : century ≤ 3
  cycle_le : cycle ≤ 24
  year_le : year ≤ 3
  day_lt : day < 365 ∨ day = 365 ∧ year = 3
  short : century < 3 → 1461 * cycle + 365 * year + day < 36524

theorem exists_eraDay {dayOfEra : Nat} (h : dayOfEra < daysPerEra) :
    ∃ century cycle year day, EraDay dayOfEra century cycle year day := by
  unfold daysPerEra at h
  -- The last day of an era would be a fifth century, the last day of a cycle a fifth year.
  obtain ⟨century, rest, hcentury, hsum, hrest⟩ : ∃ century rest, century ≤ 3 ∧
      dayOfEra = 36524 * century + rest ∧ (rest < 36524 ∨ rest = 36524 ∧ century = 3) := by
    rcases Nat.lt_or_ge dayOfEra 146096 with early | last
    · exact ⟨dayOfEra / 36524, dayOfEra % 36524, by omega, by omega, by omega⟩
    · exact ⟨3, 36524, by omega, by omega, by omega⟩
  obtain ⟨year, day, hyear, hday, hlt⟩ : ∃ year day, year ≤ 3 ∧
      rest % 1461 = 365 * year + day ∧ (day < 365 ∨ day = 365 ∧ year = 3) := by
    rcases Nat.lt_or_ge (rest % 1461) 1460 with early | last
    · exact ⟨rest % 1461 / 365, rest % 1461 % 365, by omega, by omega, by omega⟩
    · exact ⟨3, 365, by omega, by omega, by omega⟩
  exact ⟨century, rest / 1461, year, day, by omega, hcentury, by omega, hyear, hlt, by omega⟩

namespace EraDay

variable {dayOfEra century cycle year day : Nat}

/-- **The year of the era.** The corrected day, of which every year has 365, never leaves its year:
what is taken off a cycle is at most one day of its last year. -/
theorem yearOfEra_eq (h : EraDay dayOfEra century cycle year day) :
    (dayOfEra - dayOfEra / 1460 + dayOfEra / 36524 - dayOfEra / 146096) / 365 =
      100 * century + 4 * cycle + year := by
  obtain ⟨sum, century_le, cycle_le, year_le, day_lt, short⟩ := h
  have centuries : dayOfEra / 36524 = century + dayOfEra / 146096 := by
    rcases Nat.lt_or_ge century 3 with early | last
    · have := short early
      omega
    · omega
  have cycles : dayOfEra / 1460 =
      25 * century + cycle + (24 * century + cycle + 365 * year + day) / 1460 := by
    omega
  omega

theorem daysToMarch_eq (h : EraDay dayOfEra century cycle year day) :
    daysToMarch (100 * century + 4 * cycle + year) =
      36524 * century + 1461 * cycle + 365 * year := by
  obtain ⟨-, century_le, cycle_le, year_le, -, -⟩ := h
  unfold daysToMarch
  omega

/-- A year has a 366th day only if the next leap day is in it. -/
theorem day_lt_year (h : EraDay dayOfEra century cycle year day) :
    day < 365 + leapDays (100 * century + 4 * cycle + year + 1) := by
  obtain ⟨-, century_le, cycle_le, year_le, day_lt, short⟩ := h
  rcases day_lt with early | ⟨rfl, rfl⟩
  · omega
  · have leap : IsLeapYear (100 * century + 4 * cycle + 3 + 1) := by
      unfold IsLeapYear
      omega
    unfold leapDays
    rw [if_pos leap]
    omega

end EraDay

/-- Eras of 400 years have the same number of days, and leap days at the same places. -/
theorem daysToMarch_add_era (era year : Nat) :
    daysToMarch (year + era * 400) = daysToMarch year + daysPerEra * era := by
  unfold daysToMarch daysPerEra
  omega

theorem leapDays_add_era (era year : Nat) : leapDays (year + era * 400) = leapDays year := by
  have same : IsLeapYear (year + era * 400) ↔ IsLeapYear year := by
    unfold IsLeapYear
    omega
  unfold leapDays
  rw [if_congr same rfl rfl]

namespace Date

/-- The date of a day of a year that begins in March, counted from 0. -/
def ofMarch (year day : Nat) : Date :=
  let monthFromMarch := (5 * day + 2) / 153
  let month := if monthFromMarch < 10 then monthFromMarch + 3 else monthFromMarch - 9
  { year := year + (if month ≤ 2 then 1 else 0), month
    day := day - (153 * monthFromMarch + 2) / 5 + 1 }

/-- **A number of days is a year from March on and a day of it**, and that is how its date is found. -/
theorem exists_marchDay (days : Nat) :
    ∃ year day, days + epochOffset = daysToMarch year + day ∧ day < 365 + leapDays (year + 1) ∧
      ofDays days = ofMarch year day := by
  have inEra : (days + epochOffset) % daysPerEra < daysPerEra := Nat.mod_lt _ (by decide)
  obtain ⟨century, cycle, year, day, h⟩ := exists_eraDay inEra
  have split := Nat.div_add_mod (days + epochOffset) daysPerEra
  refine ⟨100 * century + 4 * cycle + year + (days + epochOffset) / daysPerEra * 400, day, ?_, ?_, ?_⟩
  · rw [daysToMarch_add_era, h.daysToMarch_eq]
    have sum := h.sum
    omega
  · rw [Nat.add_right_comm, leapDays_add_era]
    exact h.day_lt_year
  · have dayOfYear : (days + epochOffset) % daysPerEra -
        (365 * (100 * century + 4 * cycle + year) + (100 * century + 4 * cycle + year) / 4 -
          (100 * century + 4 * cycle + year) / 100) = day := by
      obtain ⟨sum, century_le, cycle_le, year_le, -, -⟩ := h
      omega
    unfold ofDays ofMarch
    simp only [h.yearOfEra_eq, dayOfYear]

end Date

/-! ### Months from March on -/

/-- Days from the first of March to the first of a month, counted from March. -/
def monthStart (month : Nat) : Nat := (153 * month + 2) / 5

theorem monthStart_le (day : Nat) :
    monthStart ((5 * day + 2) / 153) ≤ day ∧ day < monthStart ((5 * day + 2) / 153 + 1) := by
  unfold monthStart
  omega

/-- Months from March to December, with the days before them and in them. -/
theorem daysBeforeMonth_spring (year : Nat) {month : Nat} (h : month < 10) :
    daysBeforeMonth year (month + 3) = 59 + leapDays year + monthStart month ∧
      daysInMonth year (month + 3) + monthStart month = monthStart (month + 1) := by
  interval_cases month <;>
    simp [daysBeforeMonth, daysInMonth, monthStart, List.range'] <;> omega

/-- January and February are the last months of a year that begins in March. -/
theorem daysBeforeMonth_winter (year : Nat) {month : Nat} (h : 10 ≤ month) (last : month ≤ 11) :
    daysBeforeMonth year (month - 9) + 306 = monthStart month := by
  interval_cases month <;> simp [daysBeforeMonth, daysInMonth, monthStart]

namespace Date

/-- From March to December a day is in the calendar year of the same number. -/
theorem ofMarch_spring {year day : Nat} (since : epochOffset ≤ daysToMarch year + day)
    (early : day < 306) :
    (ofMarch year day).IsValid ∧
      (ofMarch year day).count + epochOffset = daysToMarch year + day := by
  have spring : (5 * day + 2) / 153 < 10 := by omega
  have least : 1970 ≤ year := by
    unfold epochOffset daysToMarch at since
    omega
  have date : ofMarch year day =
      ⟨year, (5 * day + 2) / 153 + 3, day - monthStart ((5 * day + 2) / 153) + 1⟩ := by
    unfold ofMarch
    dsimp only
    rw [if_pos spring, if_neg (by omega)]
    rfl
  obtain ⟨start, stop⟩ := monthStart_le day
  obtain ⟨before, inside⟩ := daysBeforeMonth_spring year spring
  rw [date]
  constructor
  · exact ⟨least, by dsimp only; omega, by dsimp only; omega⟩
  · have march := daysBeforeYear_add least
    unfold count
    dsimp only
    omega

/-- January and February are in the calendar year that comes next. -/
theorem ofMarch_winter {year day : Nat} (since : epochOffset ≤ daysToMarch year + day)
    (late : 306 ≤ day) (inside : day < 365 + leapDays (year + 1)) :
    (ofMarch year day).IsValid ∧
      (ofMarch year day).count + epochOffset = daysToMarch year + day := by
  have leap := leapDays_le (year + 1)
  have winter : 10 ≤ (5 * day + 2) / 153 ∧ (5 * day + 2) / 153 ≤ 11 := by omega
  have least : 1970 ≤ year + 1 := by
    unfold epochOffset daysToMarch at since
    omega
  have date : ofMarch year day =
      ⟨year + 1, (5 * day + 2) / 153 - 9, day - monthStart ((5 * day + 2) / 153) + 1⟩ := by
    unfold ofMarch
    dsimp only
    rw [if_neg (Nat.not_lt.2 winter.1), if_pos (by omega)]
    rfl
  obtain ⟨start, stop⟩ := monthStart_le day
  have before := daysBeforeMonth_winter (year + 1) winter.1 winter.2
  rw [date]
  constructor
  · refine ⟨least, by dsimp only; omega, by dsimp only; omega, ?_⟩
    dsimp only
    rcases Nat.lt_or_ge ((5 * day + 2) / 153) 11 with january | february
    · have month : (5 * day + 2) / 153 = 10 := by omega
      rw [month] at start stop ⊢
      show day - 306 + 1 ≤ 31
      unfold monthStart at stop
      omega
    · have month : (5 * day + 2) / 153 = 11 := by omega
      rw [month] at start ⊢
      show day - 337 + 1 ≤ 28 + leapDays (year + 1)
      omega
  · have march := daysBeforeYear_add least
    have next := daysToMarch_succ year
    unfold count
    dsimp only
    omega

/-- **The date of a number of days** is in the calendar and counts that number. -/
theorem ofDays_date (days : Nat) : (ofDays days).IsValid ∧ (ofDays days).count = days := by
  obtain ⟨year, day, sum, inside, eq⟩ := exists_marchDay days
  have since : epochOffset ≤ daysToMarch year + day := by omega
  have march : (ofMarch year day).IsValid ∧
      (ofMarch year day).count + epochOffset = daysToMarch year + day := by
    rcases Nat.lt_or_ge day 306 with early | late
    · exact ofMarch_spring since early
    · exact ofMarch_winter since late inside
  rw [eq]
  exact ⟨march.1, by omega⟩

end Date

/-! ### Later dates count more -/

theorem daysBeforeYear_mono {year later : Nat} (since : 1970 ≤ year) (h : year ≤ later) :
    daysBeforeYear year ≤ daysBeforeYear later := by
  induction later, h using Nat.le_induction with
  | base => exact Nat.le_refl _
  | succ later h ih =>
      rw [daysBeforeYear_succ (since.trans h)]
      omega

theorem daysBeforeMonth_mono (year : Nat) {month later : Nat} (first : 1 ≤ month)
    (h : month ≤ later) : daysBeforeMonth year month ≤ daysBeforeMonth year later := by
  induction later, h using Nat.le_induction with
  | base => exact Nat.le_refl _
  | succ later h ih =>
      rw [daysBeforeMonth_succ (first.trans h)]
      omega

/-- The twelve months make up the year. -/
theorem daysBeforeMonth_year (year : Nat) : daysBeforeMonth year 13 = daysInYear year := by
  simp [daysBeforeMonth, daysInMonth, daysInYear, List.range']
  omega

namespace Date

variable {d d' : Date}

theorem count_lt_month (h : d.IsValid) :
    d.count < daysBeforeYear d.year + daysBeforeMonth d.year (d.month + 1) := by
  have day := h.day
  rw [daysBeforeMonth_succ h.month.1, count]
  omega

theorem count_lt_year (h : d.IsValid) : d.count < daysBeforeYear (d.year + 1) := by
  have month := h.month.2
  have within := count_lt_month h
  have year : daysBeforeMonth d.year (d.month + 1) ≤ daysBeforeMonth d.year 13 :=
    daysBeforeMonth_mono d.year (by omega) (by omega)
  rw [daysBeforeMonth_year] at year
  rw [daysBeforeYear_succ h.since]
  omega

/-- **A later date counts more.** -/
theorem count_lt (h : d.IsValid)
    (later : d.year < d'.year ∨
      d.year = d'.year ∧ (d.month < d'.month ∨ d.month = d'.month ∧ d.day < d'.day)) :
    d.count < d'.count := by
  rcases later with year | ⟨year, month | ⟨month, day⟩⟩
  · have before := count_lt_year h
    have := h.since
    have after : daysBeforeYear (d.year + 1) ≤ daysBeforeYear d'.year :=
      daysBeforeYear_mono (by omega) year
    unfold count at before ⊢
    omega
  · have before := count_lt_month h
    have after : daysBeforeMonth d.year (d.month + 1) ≤ daysBeforeMonth d.year d'.month :=
      daysBeforeMonth_mono d.year (by omega) month
    rw [count, count, ← year]
    rw [count] at before
    omega
  · have first := h.day.1
    rw [count, count, ← year, ← month]
    omega

end Date

end BankedZ80
