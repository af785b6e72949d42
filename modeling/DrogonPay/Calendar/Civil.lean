import Mathlib.Logic.Function.Iterate

/-!
Contract: the proleptic Gregorian calendar, by counting days.

Owns:
- `Date`, the dates that exist, and `Date.next`, the day after;
- `DaysTo`, the signed number of days between two dates, counted one by one;
- `daysTo_exists` and `daysTo_of_step`: every two dates are some days apart, and a
  function that grows by one from day to day tells how many.

Does not own: any formula for the number of days.
-/

namespace DrogonPay.Calendar

def isLeap (year : Nat) : Bool := (year % 4 = 0 && year % 100 ≠ 0) || year % 400 = 0

def monthLength (year month : Nat) : Nat :=
  if month = 2 then if isLeap year then 29 else 28
  else if month = 4 ∨ month = 6 ∨ month = 9 ∨ month = 11 then 30
  else 31

theorem monthLength_pos (year month : Nat) : 1 ≤ monthLength year month := by
  unfold monthLength
  split <;> split <;> omega

theorem monthLength_le (year month : Nat) : monthLength year month ≤ 31 := by
  unfold monthLength
  split <;> split <;> omega

/-- A date that exists. -/
@[ext]
structure Date where
  year : Nat
  month : Nat
  day : Nat
  month_pos : 1 ≤ month
  month_le : month ≤ 12
  day_pos : 1 ≤ day
  day_le : day ≤ monthLength year month

namespace Date

/-- The first day of a month. -/
def first (year month : Nat) (month_pos : 1 ≤ month) (month_le : month ≤ 12) : Date :=
  ⟨year, month, 1, month_pos, month_le, Nat.le_refl 1, monthLength_pos year month⟩

def newYear (year : Nat) : Date := first year 1 (by decide) (by decide)

/-- The day after. -/
def next (date : Date) : Date :=
  if sameMonth : date.day < monthLength date.year date.month then
    ⟨date.year, date.month, date.day + 1, date.month_pos, date.month_le, by omega, sameMonth⟩
  else if sameYear : date.month < 12 then
    first date.year (date.month + 1) (by omega) sameYear
  else newYear (date.year + 1)

theorem next_day {date : Date} (sameMonth : date.day < monthLength date.year date.month) :
    date.next.year = date.year ∧ date.next.month = date.month ∧ date.next.day = date.day + 1 := by
  simp [next, sameMonth]

theorem next_month {date : Date} (last : ¬ date.day < monthLength date.year date.month)
    (sameYear : date.month < 12) :
    date.next.year = date.year ∧ date.next.month = date.month + 1 ∧ date.next.day = 1 := by
  simp [next, last, sameYear, first]

theorem next_year {date : Date} (last : ¬ date.day < monthLength date.year date.month)
    (december : ¬ date.month < 12) :
    date.next.year = date.year + 1 ∧ date.next.month = 1 ∧ date.next.day = 1 := by
  simp [next, last, december, newYear, first]

/-! ## Every date is reached -/

/-- Some days after the first date the second one is reached. -/
def Reaches (start date : Date) : Prop := ∃ days, next^[days] start = date

theorem Reaches.refl (date : Date) : Reaches date date := ⟨0, rfl⟩

theorem Reaches.trans {start mid date : Date} (first : Reaches start mid)
    (second : Reaches mid date) : Reaches start date := by
  obtain ⟨days, rfl⟩ := first
  obtain ⟨more, rfl⟩ := second
  exact ⟨more + days, Function.iterate_add_apply next more days start⟩

theorem Reaches.next (date : Date) : Reaches date date.next := ⟨1, rfl⟩

/-- The days of a month are reached from its first day. -/
theorem reaches_day {year month : Nat} {month_pos : 1 ≤ month} {month_le : month ≤ 12} {day : Nat}
    (day_pos : 1 ≤ day) (day_le : day ≤ monthLength year month) :
    Reaches (first year month month_pos month_le)
      ⟨year, month, day, month_pos, month_le, day_pos, day_le⟩ := by
  induction day with
  | zero => omega
  | succ day inductionHypothesis =>
      cases day with
      | zero => exact Reaches.refl _
      | succ day =>
          refine (inductionHypothesis (by omega) (by omega)).trans ⟨1, ?_⟩
          have sameMonth : day + 1 < monthLength year month := day_le
          simp [Date.next, sameMonth]

/-- The first day of a month is reached from new year. -/
theorem reaches_month {year month : Nat} {month_pos : 1 ≤ month} {month_le : month ≤ 12} :
    Reaches (newYear year) (first year month month_pos month_le) := by
  induction month with
  | zero => omega
  | succ month inductionHypothesis =>
      cases month with
      | zero => exact Reaches.refl _
      | succ month =>
          have reached : Reaches (newYear year) (first year (month + 1) (by omega) (by omega)) :=
            inductionHypothesis
          refine (reached.trans (reaches_day (monthLength_pos year (month + 1)) (Nat.le_refl _))).trans
            ⟨1, ?_⟩
          have sameYear : month + 1 < 12 := month_le
          simp [Date.next, sameYear]

theorem reaches_year (year : Nat) : Reaches (newYear 0) (newYear year) := by
  induction year with
  | zero => exact Reaches.refl _
  | succ year inductionHypothesis =>
      have december : Reaches (newYear year) (first year 12 (by decide) (by decide)) :=
        reaches_month
      refine ((inductionHypothesis.trans december).trans
        (reaches_day (monthLength_pos year 12) (Nat.le_refl _))).trans ⟨1, ?_⟩
      simp [Date.next]

theorem reached (date : Date) : Reaches (newYear 0) date :=
  ((reaches_year date.year).trans reaches_month).trans (reaches_day date.day_pos date.day_le)

end Date

/-! ## Counting -/

/-- From `start` to `date` it is `days` days, counted forwards or backwards. -/
def DaysTo (start date : Date) (days : Int) : Prop :=
  (0 ≤ days ∧ Date.next^[days.toNat] start = date) ∨
    (days < 0 ∧ Date.next^[(-days).toNat] date = start)

theorem daysTo_exists (start date : Date) : ∃ days, DaysTo start date days := by
  obtain ⟨before, reachesStart⟩ := start.reached
  obtain ⟨upTo, reachesDate⟩ := date.reached
  by_cases later : before ≤ upTo
  · refine ⟨(upTo - before : Nat), Or.inl ⟨by omega, ?_⟩⟩
    rw [Int.toNat_natCast, ← reachesStart, ← Function.iterate_add_apply,
      Nat.sub_add_cancel later, reachesDate]
  · refine ⟨-((before - upTo : Nat) : Int), Or.inr ⟨by omega, ?_⟩⟩
    rw [Int.neg_neg, Int.toNat_natCast, ← reachesDate, ← Function.iterate_add_apply,
      Nat.sub_add_cancel (by omega), reachesStart]

theorem iterate_of_step {count : Date → Int} (step : ∀ date, count date.next = count date + 1)
    (days : Nat) (date : Date) : count (Date.next^[days] date) = count date + days := by
  induction days generalizing date with
  | zero => simp
  | succ days inductionHypothesis =>
      rw [Function.iterate_succ_apply, inductionHypothesis, step]
      omega

/-- A function that grows by one each day tells how far two dates are apart. -/
theorem daysTo_of_step {count : Date → Int} (step : ∀ date, count date.next = count date + 1)
    {start date : Date} {days : Int} (counted : DaysTo start date days) :
    days = count date - count start := by
  rcases counted with ⟨forwards, reaches⟩ | ⟨backwards, reaches⟩
  · have grown := iterate_of_step step days.toNat start
    rw [reaches] at grown
    omega
  · have grown := iterate_of_step step (-days).toNat date
    rw [reaches] at grown
    omega

end DrogonPay.Calendar
