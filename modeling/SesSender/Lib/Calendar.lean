import Mathlib.Data.List.Basic
import Mathlib.Data.Nat.Digits.Defs
import Mathlib.Order.Basic

/-! The proleptic Gregorian calendar: dates and times of day that exist, their
distance from the start of year 0, and the text `YYYY-MM-DD HH:MM:SS`, whose
order as text is the order in time while the year has four digits. -/

namespace Calendar

def isLeap (y : Int) : Bool := y % 4 = 0 ∧ (y % 100 ≠ 0 ∨ y % 400 = 0)

def daysInMonth (y : Int) (m : ℕ) : ℕ :=
  if m = 2 then (if isLeap y then 29 else 28)
  else if m = 4 ∨ m = 6 ∨ m = 9 ∨ m = 11 then 30 else 31

theorem daysInMonth_pos (y : Int) (m : ℕ) : 28 ≤ daysInMonth y m := by
  unfold daysInMonth; split_ifs <;> omega

theorem daysInMonth_le (y : Int) (m : ℕ) : daysInMonth y m ≤ 31 := by
  unfold daysInMonth; split_ifs <;> omega

structure Date where
  year : Int
  month : ℕ
  day : ℕ
  month_pos : 1 ≤ month
  month_le : month ≤ 12
  day_pos : 1 ≤ day
  day_le : day ≤ daysInMonth year month

/-- A date with a time of day. Second 60 is a leap second. -/
structure DateTime extends Date where
  hour : ℕ
  minute : ℕ
  second : ℕ
  hour_lt : hour < 24
  minute_lt : minute < 60
  second_le : second ≤ 60

/-- January 1st. -/
def Date.newYear (y : Int) : Date where
  year := y
  month := 1
  day := 1
  month_pos := by decide
  month_le := by decide
  day_pos := by decide
  day_le := by have := daysInMonth_pos y 1; omega

def Date.midnight (d : Date) : DateTime :=
  { d with
    hour := 0, minute := 0, second := 0
    hour_lt := by decide, minute_lt := by decide, second_le := by decide }

/-- Days from 0000-01-01 to the first day of the year. -/
def daysBeforeYear (y : Int) : Int := 365 * y + (y + 3) / 4 - (y + 99) / 100 + (y + 399) / 400

/-- Days of the year before the first day of the month. -/
def daysBeforeMonth (y : Int) : ℕ → ℕ
  | 0 => 0
  | 1 => 0
  | m + 2 => daysBeforeMonth y (m + 1) + daysInMonth y (m + 1)

def Date.days (d : Date) : Int := daysBeforeYear d.year + daysBeforeMonth d.year d.month + d.day - 1

/-- Minutes from the start of year 0 to the minute of the date-time. -/
def DateTime.minutes (t : DateTime) : Int := t.days * 1440 + t.hour * 60 + t.minute

/-- Seconds from the start of year 0. A leap second counts as the second after :59. -/
def DateTime.secs (t : DateTime) : Int := t.minutes * 60 + t.second

theorem daysBeforeMonth_succ (y : Int) {m : ℕ} (hm : 1 ≤ m) :
    daysBeforeMonth y (m + 1) = daysBeforeMonth y m + daysInMonth y m := by
  obtain ⟨k, rfl⟩ : ∃ k, m = k + 1 := ⟨m - 1, by omega⟩
  rfl

theorem daysBeforeMonth_mono (y : Int) {m n : ℕ} (h : m ≤ n) :
    daysBeforeMonth y m ≤ daysBeforeMonth y n := by
  induction n, h using Nat.le_induction with
  | base => exact le_rfl
  | succ n _ ih =>
    rcases n with _ | n
    · exact ih
    · rw [daysBeforeMonth_succ y (by omega)]; omega

/-- The twelve months make up the year. -/
theorem daysBeforeYear_succ (y : Int) :
    daysBeforeYear (y + 1) = daysBeforeYear y + daysBeforeMonth y 13 := by
  have hlen : daysBeforeMonth y 13 = if isLeap y then 366 else 365 := by
    cases h : isLeap y <;> simp [daysBeforeMonth, daysInMonth, h]
  rw [hlen]
  unfold daysBeforeYear isLeap
  split <;> rename_i h <;> simp only [decide_eq_true_eq] at h <;> omega

theorem daysBeforeYear_mono {y z : Int} (h : y ≤ z) : daysBeforeYear y ≤ daysBeforeYear z := by
  unfold daysBeforeYear; omega

theorem Date.days_of_year_lt {d e : Date} (h : d.year < e.year) : d.days < e.days := by
  have h1 := daysBeforeYear_mono (show d.year + 1 ≤ e.year by omega)
  rw [daysBeforeYear_succ] at h1
  have h2 := daysBeforeMonth_mono d.year (show d.month + 1 ≤ 13 by have := d.month_le; omega)
  rw [daysBeforeMonth_succ _ d.month_pos] at h2
  have := d.day_le
  have := e.day_pos
  unfold Date.days
  omega

/-- Nothing of a year from 0 on is before the start of year 0. -/
theorem DateTime.secs_nonneg {t : DateTime} (h : 0 ≤ t.year) : 0 ≤ t.secs := by
  have hyear := daysBeforeYear_mono h
  have hzero : daysBeforeYear 0 = 0 := rfl
  have := t.day_pos
  unfold DateTime.secs DateTime.minutes Date.days
  omega

theorem Date.days_of_month_lt {d e : Date} (hy : d.year = e.year) (h : d.month < e.month) :
    d.days < e.days := by
  have h2 := daysBeforeMonth_mono d.year (show d.month + 1 ≤ e.month by omega)
  rw [daysBeforeMonth_succ _ d.month_pos] at h2
  have := d.day_le
  have := e.day_pos
  unfold Date.days
  rw [← hy]
  omega

/-- The order of dates by year, month and day. -/
def Date.Before (d e : Date) : Prop :=
  d.year < e.year ∨ d.year = e.year ∧ (d.month < e.month ∨ d.month = e.month ∧ d.day < e.day)

theorem Date.days_lt_iff (d e : Date) : d.days < e.days ↔ d.Before e := by
  have key : ∀ {d e : Date}, d.Before e → d.days < e.days := by
    rintro d e (h | ⟨hy, h | ⟨hm, h⟩⟩)
    · exact days_of_year_lt h
    · exact days_of_month_lt hy h
    · unfold Date.days; rw [hy, hm]; omega
  refine ⟨fun h => ?_, key⟩
  by_contra hn
  have hcases : e.Before d ∨ d.year = e.year ∧ d.month = e.month ∧ d.day = e.day := by
    unfold Date.Before at hn ⊢; omega
  rcases hcases with he | ⟨hy, hm, hd⟩
  · have := key he; omega
  · unfold Date.days at h; rw [hy, hm, hd] at h; omega

/-- The day before. -/
def Date.pred (d : Date) : Date :=
  if hd : 1 < d.day then
    { d with day := d.day - 1, day_pos := by omega, day_le := by have := d.day_le; omega }
  else if hm : 1 < d.month then
    { year := d.year, month := d.month - 1, day := daysInMonth d.year (d.month - 1)
      month_pos := by omega
      month_le := by have := d.month_le; omega
      day_pos := by have := daysInMonth_pos d.year (d.month - 1); omega
      day_le := le_rfl }
  else
    { year := d.year - 1, month := 12, day := 31
      month_pos := by decide
      month_le := by decide
      day_pos := by decide
      day_le := by simp [daysInMonth] }

theorem Date.days_pred (d : Date) : d.pred.days = d.days - 1 := by
  have hpos := d.day_pos
  unfold Date.pred
  split_ifs with hd hm
  · simp only [Date.days]; omega
  · obtain ⟨m, hm'⟩ : ∃ m, d.month = m + 1 := ⟨d.month - 1, by omega⟩
    simp only [Date.days, hm', Nat.add_sub_cancel]
    rw [daysBeforeMonth_succ _ (by omega)]
    omega
  · have hm1 : d.month = 1 := by have := d.month_pos; omega
    have hy := daysBeforeYear_succ (d.year - 1)
    rw [Int.sub_add_cancel, daysBeforeMonth_succ _ (by decide)] at hy
    have h31 : daysInMonth (d.year - 1) 12 = 31 := rfl
    simp only [Date.days, hm1, daysBeforeMonth] at hy ⊢
    omega

/-- The date-time `k ≤ 24` hours earlier. Minutes and seconds, a leap second too, stay. -/
def DateTime.minusHours (t : DateTime) (k : ℕ) (hk : k ≤ 24) : DateTime :=
  if h : k ≤ t.hour then { t with hour := t.hour - k, hour_lt := by have := t.hour_lt; omega }
  else { t with toDate := t.toDate.pred, hour := t.hour + 24 - k, hour_lt := by omega }

theorem DateTime.secs_minusHours (t : DateTime) (k : ℕ) (hk : k ≤ 24) :
    (t.minusHours k hk).secs = t.secs - 3600 * k := by
  unfold DateTime.minusHours
  split_ifs with h
  · simp only [DateTime.secs, DateTime.minutes]; omega
  · simp only [DateTime.secs, DateTime.minutes, Date.days_pred]; omega

theorem DateTime.second_minusHours (t : DateTime) (k : ℕ) (hk : k ≤ 24) :
    (t.minusHours k hk).second = t.second := by
  unfold DateTime.minusHours
  split_ifs <;> rfl

/-- The date `n` days earlier. -/
def Date.minusDays (d : Date) : ℕ → Date
  | 0 => d
  | n + 1 => (d.minusDays n).pred

theorem Date.days_minusDays (d : Date) (n : ℕ) : (d.minusDays n).days = d.days - n := by
  induction n with
  | zero => simp [minusDays]
  | succ n ih => rw [minusDays, days_pred, ih]; omega

theorem mod_hours_le (h : ℕ) : h % 24 ≤ 24 := (Nat.mod_lt h (by decide)).le

/-- The date-time any number of hours earlier. -/
def DateTime.hoursBefore (t : DateTime) (h : ℕ) : DateTime :=
  DateTime.minusHours { t with toDate := t.toDate.minusDays (h / 24) } (h % 24) (mod_hours_le h)

theorem DateTime.secs_hoursBefore (t : DateTime) (h : ℕ) :
    (t.hoursBefore h).secs = t.secs - 3600 * h := by
  rw [hoursBefore, secs_minusHours]
  simp only [DateTime.secs, DateTime.minutes, Date.days_minusDays]
  omega

theorem Date.year_pred (d : Date) : d.year - 1 ≤ d.pred.year ∧ d.pred.year ≤ d.year := by
  unfold Date.pred
  split_ifs <;> simp only <;> omega

theorem DateTime.year_minusHours (t : DateTime) (k : ℕ) (hk : k ≤ 24) :
    t.year - 1 ≤ (t.minusHours k hk).year ∧ (t.minusHours k hk).year ≤ t.year := by
  unfold DateTime.minusHours
  split_ifs
  · simp only
    omega
  · exact t.toDate.year_pred

end Calendar
