import Mathlib.Data.String.Basic
import SesSender.Lib.Calendar

/-! Date-times as text, `YYYY-MM-DD HH:MM:SS`. A year outside 0..9999 is written
with its sign, so such a text starts with a character below every digit. -/

namespace Calendar

def digit (n : ℕ) : Char := Nat.digitChar (n % 10)

theorem digitChar_lt_iff : ∀ m < 10, ∀ n < 10, Nat.digitChar m < Nat.digitChar n ↔ m < n := by
  decide

theorem digitChar_inj : ∀ m < 10, ∀ n < 10, Nat.digitChar m = Nat.digitChar n ↔ m = n := by
  decide

theorem digit_lt_iff (m n : ℕ) : digit m < digit n ↔ m % 10 < n % 10 :=
  digitChar_lt_iff _ (Nat.mod_lt _ (by decide)) _ (Nat.mod_lt _ (by decide))

theorem digit_inj (m n : ℕ) : digit m = digit n ↔ m % 10 = n % 10 :=
  digitChar_inj _ (Nat.mod_lt _ (by decide)) _ (Nat.mod_lt _ (by decide))

theorem sign_lt_digit (n : ℕ) : '+' < digit n ∧ '-' < digit n := by
  have : ∀ m < 10, '+' < Nat.digitChar m ∧ '-' < Nat.digitChar m := by decide
  exact this _ (Nat.mod_lt _ (by decide))

def pad2 (n : ℕ) : List Char := [digit (n / 10), digit n]

def pad4 (n : ℕ) : List Char := pad2 (n / 100) ++ pad2 n

theorem pad2_append_lt {m n : ℕ} (hm : m < 100) (hn : n < 100) (x y : List Char) :
    pad2 m ++ x < pad2 n ++ y ↔ m < n ∨ m = n ∧ x < y := by
  simp only [pad2, List.cons_append, List.nil_append, List.cons_lt_cons_iff, digit_lt_iff,
    digit_inj]
  by_cases hxy : x < y <;> simp only [hxy, and_true, and_false, or_false] <;> omega

theorem pad2_mod (n : ℕ) : pad2 (n % 100) = pad2 n := by
  simp only [pad2, digit]
  rw [show n % 100 / 10 % 10 = n / 10 % 10 by omega, show n % 100 % 10 = n % 10 by omega]

theorem pad4_append_lt {m n : ℕ} (hm : m < 10000) (hn : n < 10000) (x y : List Char) :
    pad4 m ++ x < pad4 n ++ y ↔ m < n ∨ m = n ∧ x < y := by
  rw [pad4, pad4, ← pad2_mod m, ← pad2_mod n, List.append_assoc, List.append_assoc,
    pad2_append_lt (by omega) (by omega),
    pad2_append_lt (Nat.mod_lt _ (by decide)) (Nat.mod_lt _ (by decide))]
  by_cases hxy : x < y <;> simp only [hxy, and_true, and_false, or_false] <;> omega

/-- A year of four digits. -/
def FourDigits (y : Int) : Prop := 0 ≤ y ∧ y ≤ 9999

instance (y : Int) : Decidable (FourDigits y) := inferInstanceAs (Decidable (_ ∧ _))

/-- The year: four digits, or a sign and at least four digits. -/
def yearText (y : Int) : List Char :=
  if FourDigits y then pad4 y.toNat
  else (if y < 0 then '-' else '+') ::
    (if y.natAbs < 10000 then pad4 y.natAbs else Nat.toDigits 10 y.natAbs)

theorem yearText_four {y : Int} (h : FourDigits y) : yearText y = pad4 y.toNat := if_pos h

theorem yearText_signed {y : Int} (h : ¬ FourDigits y) :
    ∃ c ds, (c = '-' ∨ c = '+') ∧ yearText y = c :: ds := by
  refine ⟨_, _, ?_, if_neg h⟩
  split_ifs <;> simp

/-- What follows the year. -/
def DateTime.tail (t : DateTime) : List Char :=
  '-' :: (pad2 t.month ++ '-' :: (pad2 t.day ++ ' ' :: (pad2 t.hour ++ ':' ::
    (pad2 t.minute ++ ':' :: (pad2 t.second ++ [])))))

def DateTime.stamp (t : DateTime) : String := String.ofList (yearText t.year ++ t.tail)

theorem DateTime.stamp_lt {s t : DateTime} :
    s.stamp < t.stamp ↔ yearText s.year ++ s.tail < yearText t.year ++ t.tail := by
  rw [String.lt_iff_toList_lt, DateTime.stamp, DateTime.stamp, String.toList_ofList,
    String.toList_ofList]

/-- The order of date-times field by field. -/
def DateTime.Before (s t : DateTime) : Prop :=
  s.year < t.year ∨ s.year = t.year ∧ (s.month < t.month ∨ s.month = t.month ∧
    (s.day < t.day ∨ s.day = t.day ∧ (s.hour < t.hour ∨ s.hour = t.hour ∧
      (s.minute < t.minute ∨ s.minute = t.minute ∧ s.second < t.second))))

theorem DateTime.tail_lt (s t : DateTime) : s.tail < t.tail ↔
    s.month < t.month ∨ s.month = t.month ∧ (s.day < t.day ∨ s.day = t.day ∧
      (s.hour < t.hour ∨ s.hour = t.hour ∧
        (s.minute < t.minute ∨ s.minute = t.minute ∧ s.second < t.second))) := by
  have hs := s.month_le; have ht := t.month_le
  have hsd := s.day_le.trans (daysInMonth_le _ _); have htd := t.day_le.trans (daysInMonth_le _ _)
  have hsh := s.hour_lt; have hth := t.hour_lt
  have hsm := s.minute_lt; have htm := t.minute_lt
  have hss := s.second_le; have hts := t.second_le
  have hirr : ∀ c : Char, ¬ c < c := fun c => Char.lt_irrefl c
  unfold DateTime.tail
  simp only [List.cons_lt_cons_iff, hirr, false_or, true_and]
  rw [pad2_append_lt (by omega) (by omega)]
  simp only [List.cons_lt_cons_iff, hirr, false_or, true_and]
  rw [pad2_append_lt (by omega) (by omega)]
  simp only [List.cons_lt_cons_iff, hirr, false_or, true_and]
  rw [pad2_append_lt (by omega) (by omega)]
  simp only [List.cons_lt_cons_iff, hirr, false_or, true_and]
  rw [pad2_append_lt (by omega) (by omega)]
  simp only [List.cons_lt_cons_iff, hirr, false_or, true_and]
  rw [pad2_append_lt (by omega) (by omega)]
  simp

theorem DateTime.stamp_lt_iff {s t : DateTime} (hs : FourDigits s.year) (ht : FourDigits t.year) :
    s.stamp < t.stamp ↔ s.Before t := by
  rw [stamp_lt, yearText_four hs, yearText_four ht]
  obtain ⟨hs0, hs1⟩ := hs
  obtain ⟨ht0, ht1⟩ := ht
  rw [pad4_append_lt (by omega) (by omega), tail_lt]
  unfold DateTime.Before
  rw [show s.year.toNat < t.year.toNat ↔ s.year < t.year by omega,
    show s.year.toNat = t.year.toNat ↔ s.year = t.year by omega]

theorem Date.days_eq_iff (d e : Date) :
    d.days = e.days ↔ d.year = e.year ∧ d.month = e.month ∧ d.day = e.day := by
  have h1 := Date.days_lt_iff d e
  have h2 := Date.days_lt_iff e d
  unfold Date.Before at h1 h2
  omega

theorem DateTime.before_iff (s t : DateTime) :
    s.Before t ↔ s.minutes < t.minutes ∨ s.minutes = t.minutes ∧ s.second < t.second := by
  have h1 := Date.days_lt_iff s.toDate t.toDate
  have h2 := Date.days_eq_iff s.toDate t.toDate
  have hsh := s.hour_lt; have hth := t.hour_lt
  have hsm := s.minute_lt; have htm := t.minute_lt
  unfold Date.Before at h1
  unfold DateTime.Before DateTime.minutes
  omega

theorem DateTime.lt_secs_iff (s t : DateTime) (hs : s.second < 60) :
    s.secs < t.secs ↔ s.minutes < t.minutes ∨ s.minutes = t.minutes ∧ s.second < t.second := by
  have ht := t.second_le
  unfold DateTime.secs
  omega

/-- Of two date-times that differ one is before the other. -/
theorem DateTime.eq_of_not_before {s t : DateTime} (hst : ¬ s.Before t) (hts : ¬ t.Before s) :
    s = t := by
  have hfields : s.year = t.year ∧ s.month = t.month ∧ s.day = t.day ∧ s.hour = t.hour ∧
      s.minute = t.minute ∧ s.second = t.second := by
    unfold DateTime.Before at hst hts
    omega
  obtain ⟨⟨year, month, day⟩, hour, minute, second⟩ := s
  obtain ⟨⟨year', month', day'⟩, hour', minute', second'⟩ := t
  obtain ⟨rfl, rfl, rfl, rfl, rfl, rfl⟩ := hfields
  rfl

/-- Leap seconds aside, a number of seconds is that of one date-time at most. -/
theorem DateTime.secs_inj {s t : DateTime} (hs : s.second < 60) (ht : t.second < 60) :
    s.secs = t.secs ↔ s = t := by
  refine ⟨fun h => eq_of_not_before ?_ ?_, fun h => h ▸ rfl⟩
  · rw [before_iff, ← lt_secs_iff s t hs]
    omega
  · rw [before_iff, ← lt_secs_iff t s ht]
    omega

/-- With four-digit years the text determines the date-time. -/
theorem DateTime.stamp_inj {s t : DateTime} (hs : FourDigits s.year) (ht : FourDigits t.year) :
    s.stamp = t.stamp ↔ s = t := by
  refine ⟨fun h => eq_of_not_before ?_ ?_, fun h => h ▸ rfl⟩
  · rw [← stamp_lt_iff hs ht, h]
    exact lt_irrefl _
  · rw [← stamp_lt_iff ht hs, h]
    exact lt_irrefl _

theorem DateTime.length_stamp {t : DateTime} (h : FourDigits t.year) : t.stamp.length = 19 := by
  rw [DateTime.stamp, String.length_ofList, yearText_four h]
  rfl

/-- With four-digit years, and no leap second on the right, the text compares as the time does. -/
theorem DateTime.stamp_le_iff {s t : DateTime} (hs : FourDigits s.year) (ht : FourDigits t.year)
    (hsec : t.second < 60) : s.stamp ≤ t.stamp ↔ s.secs ≤ t.secs := by
  rw [← not_lt, ← not_lt, not_iff_not, stamp_lt_iff ht hs, before_iff, lt_secs_iff t s hsec]

/-- A signed year sorts before every four-digit year, whatever time it denotes. -/
theorem DateTime.stamp_lt_of_signed {s t : DateTime} (hs : ¬ FourDigits s.year)
    (ht : FourDigits t.year) : s.stamp < t.stamp := by
  obtain ⟨c, ds, hc, hy⟩ := yearText_signed hs
  have hd := sign_lt_digit (t.year.toNat / 100 / 10)
  rw [stamp_lt, hy, yearText_four ht, pad4, pad2]
  apply List.cons_lt_cons_iff.2
  rcases hc with rfl | rfl
  · exact Or.inl hd.2
  · exact Or.inl hd.1

theorem DateTime.stamp_le_of_signed {s t : DateTime} (hs : ¬ FourDigits s.year)
    (ht : FourDigits t.year) : s.stamp ≤ t.stamp :=
  le_of_lt (stamp_lt_of_signed hs ht)

theorem DateTime.secs_lt_of_year_lt {s t : DateTime} (h : s.year < t.year) (hs : s.second < 60) :
    s.secs < t.secs := by
  rw [lt_secs_iff s t hs, ← before_iff]
  exact Or.inl h

theorem DateTime.secs_le_of_year_lt {s t : DateTime} (h : s.year < t.year) : s.secs ≤ t.secs := by
  have hb : s.minutes < t.minutes := by
    have hd := Date.days_of_year_lt (d := s.toDate) (e := t.toDate) h
    have := s.hour_lt; have := s.minute_lt
    unfold DateTime.minutes
    omega
  have := s.second_le
  unfold DateTime.secs
  omega

end Calendar
