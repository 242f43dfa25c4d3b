import DocTables.Calendar
import Mathlib.Tactic.ByContra
import Mathlib.Tactic.IntervalCases

/-!
# Dates and their numbers

The rules of the Gregorian calendar: which years have a leap day, how long the months are, and which
date comes after which.  The days are numbered from the beginning of 1970, by adding up the years
and the months before a date (`Date.number`); the number of the next date is the next number
(`Date.IsValid.next`), so different dates have different numbers (`Date.IsValid.eq_of_number_eq`).

The date of a day is found by cutting its number into cycles, centuries, spans and years that begin
in March.  It is a date of the calendar and has this number (`dateOfDay_spec`).  So the dates follow
each other as in the calendar (`dateOfDay_succ`).
-/

namespace DocTables.Calendar

/-! ## The calendar -/

/-- The years with a leap day: every fourth year, of the last years of centuries only every
fourth. -/
def IsLeapYear (year : Int) : Prop := 4 ∣ year ∧ (¬ 100 ∣ year ∨ 400 ∣ year)

instance (year : Int) : Decidable (IsLeapYear year) := inferInstanceAs (Decidable (_ ∧ _))

/-- The number of leap days of a year. -/
def leapDays (year : Int) : Nat := if IsLeapYear year then 1 else 0

/-- The number of days of a month. -/
def daysInMonth (year : Int) (month : Nat) : Nat :=
  if month = 2 then 28 + leapDays year
  else if month = 4 ∨ month = 6 ∨ month = 9 ∨ month = 11 then 30
  else 31

/-- The days of a year before a month. -/
def daysBeforeMonth (year : Int) : Nat → Nat
  | 0 => 0
  | 1 => 0
  | month + 2 => daysBeforeMonth year (month + 1) + daysInMonth year (month + 1)

/-- The days from the beginning of 1970 to the beginning of a year: 365 for every year, and one more
for every leap year. -/
def daysBeforeYear (year : Int) : Int :=
  365 * (year - 1970) + ((year - 1) / 4 - (year - 1) / 100 + (year - 1) / 400 - 477)

namespace Date

/-- The dates of the calendar. -/
structure IsValid (date : Date) : Prop where
  one_le_month : 1 ≤ date.month
  month_le : date.month ≤ 12
  one_le_day : 1 ≤ date.day
  day_le : date.day ≤ daysInMonth date.year date.month

/-- The number of a date, counted from the first day of 1970. -/
def number (date : Date) : Int :=
  daysBeforeYear date.year + daysBeforeMonth date.year date.month + date.day - 1

/-- The date after a date. -/
def next (date : Date) : Date :=
  if date.day < daysInMonth date.year date.month then ⟨date.year, date.month, date.day + 1⟩
  else if date.month < 12 then ⟨date.year, date.month + 1, 1⟩
  else ⟨date.year + 1, 1, 1⟩

/-- The day of the week of a date, with Sunday as zero. The first day of 1970 was a Thursday. -/
def weekday (date : Date) : Nat := ((date.number + 4) % 7).toNat

end Date

/-! ## Adding up -/

variable {year : Int} {month : Nat}

lemma leapDays_le_one (year : Int) : leapDays year ≤ 1 := by
  unfold leapDays
  split <;> omega

lemma daysBeforeYear_succ (year : Int) :
    daysBeforeYear (year + 1) = daysBeforeYear year + 365 + leapDays year := by
  unfold daysBeforeYear leapDays
  by_cases hleap : IsLeapYear year
  · rw [if_pos hleap]
    unfold IsLeapYear at hleap
    omega
  · rw [if_neg hleap]
    unfold IsLeapYear at hleap
    omega

lemma daysBeforeMonth_succ (hmonth : 1 ≤ month) :
    daysBeforeMonth year (month + 1) = daysBeforeMonth year month + daysInMonth year month := by
  obtain ⟨month, rfl⟩ := Nat.exists_eq_add_of_le' hmonth
  rfl

lemma daysInMonth_february (year : Int) : daysInMonth year 2 = 28 + leapDays year := if_pos rfl

/-- From March to December the lengths of the months repeat, five of them having 153 days. -/
lemma daysInMonth_march (year : Int) {place : Nat} (hplace : place < 10) :
    (153 * place + 2) / 5 + daysInMonth year (place + 3) = (153 * (place + 1) + 2) / 5 := by
  interval_cases place <;> rfl

/-- So their beginnings are found by one division. -/
lemma daysBeforeMonth_march (year : Int) {place : Nat} (hplace : place < 10) :
    daysBeforeMonth year (place + 3) = 59 + leapDays year + (153 * place + 2) / 5 := by
  induction place with
  | zero =>
    have hjanuary : daysBeforeMonth year 2 = 31 := rfl
    rw [daysBeforeMonth_succ (by omega), hjanuary, daysInMonth_february]
    omega
  | succ place ih =>
    have hlength := daysInMonth_march year (Nat.lt_of_succ_lt hplace)
    rw [Nat.add_right_comm, daysBeforeMonth_succ (by omega), ih (Nat.lt_of_succ_lt hplace),
      Nat.add_assoc, hlength]

lemma daysInMonth_pos (year : Int) (month : Nat) : 1 ≤ daysInMonth year month := by
  unfold daysInMonth
  split
  · omega
  · split <;> omega

lemma daysInMonth_le (year : Int) (month : Nat) : daysInMonth year month ≤ 31 := by
  have hleap := leapDays_le_one year
  unfold daysInMonth
  split
  · omega
  · split <;> omega

/-- The months make up the year. -/
lemma daysBeforeMonth_thirteen (year : Int) : daysBeforeMonth year 13 = 365 + leapDays year := by
  have hdecember : daysInMonth year 12 = 31 := rfl
  rw [daysBeforeMonth_succ (by omega), daysBeforeMonth_march year (show 9 < 10 by omega), hdecember]
  omega

/-- Later months begin later. -/
lemma daysBeforeMonth_mono {first second : Nat} (hfirst : 1 ≤ first) (h : first < second) :
    daysBeforeMonth year first + daysInMonth year first ≤ daysBeforeMonth year second := by
  rw [← daysBeforeMonth_succ hfirst]
  induction second, h using Nat.le_induction with
  | base => exact Nat.le_refl _
  | succ second hle ih =>
    rw [daysBeforeMonth_succ (Nat.le_trans hfirst (Nat.le_of_succ_le hle))]
    exact Nat.le_trans ih (Nat.le_add_right _ _)

/-- Later years begin later. -/
lemma daysBeforeYear_mono {first second : Int} (h : first ≤ second) :
    daysBeforeYear first ≤ daysBeforeYear second := by
  unfold daysBeforeYear
  omega

/-! ## Numbers of dates -/

namespace Date

variable {date other : Date}

/-- The number of a date is in its year. -/
lemma IsValid.number_mem (h : date.IsValid) :
    daysBeforeYear date.year ≤ date.number ∧ date.number < daysBeforeYear (date.year + 1) := by
  have hmonths : daysBeforeMonth date.year date.month + daysInMonth date.year date.month ≤
      daysBeforeMonth date.year 13 :=
        daysBeforeMonth_mono h.one_le_month (Nat.lt_succ_of_le h.month_le)
  have hlast := daysBeforeMonth_thirteen date.year
  have hsucc := daysBeforeYear_succ date.year
  have hfirst := h.one_le_day
  have hday := h.day_le
  unfold number
  omega

/-- A date is in a year or after it just if its number is. -/
lemma IsValid.le_number_iff (h : date.IsValid) (year : Int) :
    daysBeforeYear year ≤ date.number ↔ year ≤ date.year := by
  obtain ⟨hfirst, hlast⟩ := h.number_mem
  constructor
  · intro hyear
    by_contra hlater
    have hnext := daysBeforeYear_mono (Int.add_one_le_of_lt (Int.not_le.mp hlater))
    omega
  · intro hyear
    exact Int.le_trans (daysBeforeYear_mono hyear) hfirst

/-- The year is determined by the number. -/
lemma IsValid.year_eq (h : date.IsValid) (hother : other.IsValid)
    (hnumber : date.number = other.number) :
    date.year = other.year := by
  have hyears : ∀ year, year ≤ date.year ↔ year ≤ other.year := by
    intro year
    rw [← h.le_number_iff, ← hother.le_number_iff, hnumber]
  exact Int.le_antisymm ((hyears _).mp (Int.le_refl _)) ((hyears _).mpr (Int.le_refl _))

/-- Different dates have different numbers. -/
lemma IsValid.eq_of_number_eq (h : date.IsValid) (hother : other.IsValid)
    (hnumber : date.number = other.number) : date = other := by
  have hyear := h.year_eq hother hnumber
  obtain ⟨year, month, day⟩ := date
  obtain ⟨year', month', day'⟩ := other
  obtain rfl : year = year' := hyear
  have hdays : daysBeforeMonth year month + day = daysBeforeMonth year month' + day' := by
    have hday := h.one_le_day
    have hday' := hother.one_le_day
    simp only [number] at hnumber
    omega
  have hmonth : month = month' := by
    have hday := h.one_le_day
    have hday' := hother.one_le_day
    have hlast := h.day_le
    have hlast' := hother.day_le
    dsimp only at hday hday' hlast hlast'
    rcases Nat.lt_trichotomy month month' with hlt | heq | hlt
    · have hmonths : daysBeforeMonth year month + daysInMonth year month ≤
          daysBeforeMonth year month' := daysBeforeMonth_mono h.one_le_month hlt
      omega
    · exact heq
    · have hmonths : daysBeforeMonth year month' + daysInMonth year month' ≤
          daysBeforeMonth year month := daysBeforeMonth_mono hother.one_le_month hlt
      omega
  subst hmonth
  rw [Nat.add_left_cancel hdays]

/-- The next date is a date of the calendar, and has the next number. -/
lemma IsValid.next (h : date.IsValid) : date.next.IsValid ∧ date.next.number = date.number + 1 := by
  obtain ⟨year, month, day⟩ := date
  obtain ⟨hmonth, hmonth', hday, hday'⟩ := h
  dsimp only at hmonth hmonth' hday hday'
  unfold Date.next
  dsimp only
  split
  · rename_i hmore
    refine ⟨⟨hmonth, hmonth', Nat.le_add_left 1 day, hmore⟩, ?_⟩
    simp only [number]
    omega
  · rename_i hlast
    split
    · rename_i hyear
      refine ⟨⟨Nat.le_add_left 1 month, hyear, Nat.le_refl 1, daysInMonth_pos _ _⟩, ?_⟩
      have hmonths : daysBeforeMonth year (month + 1) =
          daysBeforeMonth year month + daysInMonth year month := daysBeforeMonth_succ hmonth
      simp only [number]
      omega
    · rename_i hyear
      obtain rfl : month = 12 := by omega
      refine ⟨⟨Nat.le_refl 1, Nat.le_add_left 1 11, Nat.le_refl 1, daysInMonth_pos _ _⟩, ?_⟩
      have hmonths : daysBeforeMonth year 13 = daysBeforeMonth year 12 + daysInMonth year 12 :=
        daysBeforeMonth_succ hmonth
      have hlength := daysBeforeMonth_thirteen year
      have hsucc := daysBeforeYear_succ year
      have hjanuary : daysBeforeMonth (year + 1) 1 = 0 := rfl
      simp only [number]
      omega

end Date

/-! ## The date of a day -/

/-- A day of a cycle is cut into the years before it, with their leap days, and a day of its year.
The last day of a year is there only if its number is that of a leap year. -/
lemma splitCycle_spec {day : Nat} (hday : day < 146097) :
    (splitCycle day).1 < 400 ∧
      day + (splitCycle day).1 / 100 =
        365 * (splitCycle day).1 + (splitCycle day).1 / 4 + (splitCycle day).2 ∧
      (splitCycle day).2 < 365 + leapDays ((splitCycle day).1 + 1) := by
  unfold splitCycle
  dsimp only
  generalize hcentury : min (day / 36524) 3 = century
  generalize hspan : (day - century * 36524) / 1461 = span
  generalize hyear : min ((day - century * 36524 - span * 1461) / 365) 3 = year
  have hcenturies : century ≤ 3 := by omega
  have hspans : span ≤ 24 := by omega
  have hyears : year ≤ 3 := by omega
  have hfour : (century * 100 + span * 4 + year) / 4 = century * 25 + span := by omega
  have hhundred : (century * 100 + span * 4 + year) / 100 = century := by omega
  rw [hfour, hhundred]
  refine ⟨by omega, by omega, ?_⟩
  unfold leapDays
  by_cases hleap : IsLeapYear (((century * 100 + span * 4 + year : Nat) : Int) + 1)
  · rw [if_pos hleap]
    omega
  · rw [if_neg hleap]
    unfold IsLeapYear at hleap
    omega

/-- A day of a year that begins in March is cut into a month and a day of it. -/
lemma splitYear_spec {day : Nat} (hday : day < 366) :
    (splitYear day).1 < 12 ∧ day = (153 * (splitYear day).1 + 2) / 5 + (splitYear day).2 ∧
      day < (153 * ((splitYear day).1 + 1) + 2) / 5 := by
  unfold splitYear
  dsimp only
  omega

/-- The days before a year, by the years that begin in March. -/
lemma daysBeforeYear_eq (year : Int) :
    daysBeforeYear year + 59 + leapDays year =
      365 * year + year / 4 - year / 100 + year / 400 - 719468 := by
  have hsucc := daysBeforeYear_succ year
  unfold daysBeforeYear at hsucc ⊢
  omega

/-- A month and a day of a year that begins in March are a date of the calendar. -/
lemma marchDate_spec {year : Int} {place dayOfMonth dayOfYear : Nat} (hplace : place < 12)
    (hday : dayOfYear = (153 * place + 2) / 5 + dayOfMonth)
    (hmonth : dayOfYear < (153 * (place + 1) + 2) / 5)
    (hyear : dayOfYear < 365 + leapDays (year + 1)) :
    let date : Date := if place < 10 then ⟨year, place + 3, dayOfMonth + 1⟩
      else ⟨year + 1, place - 9, dayOfMonth + 1⟩
    date.IsValid ∧ date.number =
      365 * year + year / 4 - year / 100 + year / 400 - 719468 + dayOfYear := by
  intro date
  have hbefore := daysBeforeYear_eq year
  by_cases hmarch : place < 10
  · have hdate : date = ⟨year, place + 3, dayOfMonth + 1⟩ := if_pos hmarch
    have hdays := daysInMonth_march year hmarch
    have hmonths := daysBeforeMonth_march year hmarch
    have hlast : dayOfMonth + 1 ≤ daysInMonth year (place + 3) := by omega
    rw [hdate]
    refine ⟨⟨Nat.le_add_left 1 _, Nat.add_le_add_right (Nat.le_of_lt_succ hmarch) 3,
      Nat.le_add_left 1 _, hlast⟩, ?_⟩
    simp only [Date.number]
    omega
  · have hdate : date = ⟨year + 1, place - 9, dayOfMonth + 1⟩ := if_neg hmarch
    have hafter := daysBeforeYear_succ year
    rw [hdate]
    -- January and February belong to the next year of the calendar
    obtain rfl | rfl : place = 10 ∨ place = 11 := by omega
    · have hmonths : daysBeforeMonth (year + 1) (10 - 9) = 0 := rfl
      have hlast : dayOfMonth + 1 ≤ 31 := by omega
      refine ⟨⟨Nat.le_refl 1, Nat.le_add_left 1 11, Nat.le_add_left 1 _, hlast⟩, ?_⟩
      simp only [Date.number]
      omega
    · have hmonths : daysBeforeMonth (year + 1) (11 - 9) = 31 := rfl
      have hlast : dayOfMonth + 1 ≤ 28 + leapDays (year + 1) := by omega
      rw [← daysInMonth_february] at hlast
      refine ⟨⟨Nat.le_add_left 1 1, Nat.le_add_left 2 10, Nat.le_add_left 1 _, hlast⟩, ?_⟩
      simp only [Date.number]
      omega

/-- The date of a day is a date of the calendar, and has this number. -/
lemma dateOfDay_spec (day : Int) : (dateOfDay day).IsValid ∧ (dateOfDay day).number = day := by
  unfold dateOfDay epochDay cycleDays
  dsimp only
  generalize hcycle : (day + 719468) / 146097 = cycle
  generalize hrest : ((day + 719468) % 146097).toNat = rest
  have hcycles : rest < 146097 := by omega
  obtain ⟨hyears, hdays, hlast⟩ := splitCycle_spec hcycles
  generalize splitCycle rest = split at hyears hdays hlast ⊢
  obtain ⟨year, dayOfYear⟩ := split
  dsimp only at hyears hdays hlast ⊢
  have hleap : leapDays ((year : Int) + 1) = leapDays (cycle * 400 + year + 1) := by
    unfold leapDays IsLeapYear
    refine if_congr ?_ rfl rfl
    omega
  have hlength : leapDays (cycle * 400 + year + 1) ≤ 1 := leapDays_le_one _
  rw [hleap] at hlast
  have hyear : dayOfYear < 366 := by omega
  obtain ⟨hplace, hday, hmonth⟩ := splitYear_spec hyear
  obtain ⟨hvalid, hnumber⟩ := marchDate_spec hplace hday hmonth hlast
  refine ⟨hvalid, ?_⟩
  have hfour : (cycle * 400 + (year : Int)) / 4 = cycle * 100 + ((year / 4 : Nat) : Int) := by omega
  have hhundred : (cycle * 400 + (year : Int)) / 100 = cycle * 4 + ((year / 100 : Nat) : Int) := by
    omega
  have hfourHundred : (cycle * 400 + (year : Int)) / 400 = cycle := by omega
  rw [hnumber, hfour, hhundred, hfourHundred]
  omega

/-- A date of the calendar is the date of its number. -/
lemma Date.IsValid.dateOfDay_number {date : Date} (h : date.IsValid) :
    dateOfDay date.number = date := by
  obtain ⟨hvalid, hnumber⟩ := dateOfDay_spec date.number
  exact hvalid.eq_of_number_eq h hnumber

/-- The next day has the next date. -/
lemma dateOfDay_succ (day : Int) : dateOfDay (day + 1) = (dateOfDay day).next := by
  obtain ⟨hvalid, hnumber⟩ := dateOfDay_spec day
  obtain ⟨hnext, hnextNumber⟩ := hvalid.next
  rw [← hnext.dateOfDay_number, hnextNumber, hnumber]

lemma weekday_lt (date : Date) : date.weekday < 7 := by
  unfold Date.weekday
  omega

/-- The day of the week of a day is that of its date. -/
lemma weekday_eq (day : Int) : weekday day = (dateOfDay day).weekday := by
  rw [Date.weekday, (dateOfDay_spec day).2, weekday]

end DocTables.Calendar
