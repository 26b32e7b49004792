import SesSender.Proofs.Due

/-! `parse_scheduled_at` from one text to the other: nine hours earlier to the
second, and in the same order. -/

namespace Ses

open Calendar

variable {E : Env}

/-- A year of `0001..9999` and no leap second. -/
structure Convertible (dt : DateTime) : Prop where
  year_pos : 1 ≤ dt.year
  year_le : dt.year ≤ 9999
  second_lt : dt.second < 60

variable {dt dt' utc utc' : DateTime}

/-- The year 0 is written with four digits too. -/
theorem Convertible.fourDigits (h : Convertible dt) (hutc : kstToUtc dt = some utc) :
    FourDigits utc.year := by
  obtain ⟨hlow, hhigh⟩ := dt.year_minusHours 9 (by decide)
  have := h.year_pos
  have := h.year_le
  rw [kstToUtc_eq hutc]
  unfold FourDigits
  omega

theorem Convertible.second_utc (h : Convertible dt) (hutc : kstToUtc dt = some utc) :
    utc.second < 60 := by
  rw [kstToUtc_eq hutc, DateTime.second_minusHours]
  exact h.second_lt

theorem Convertible.exists_utc (h : Convertible dt) : ∃ utc, kstToUtc dt = some utc := by
  have hyear : chronoMinYear ≤ (dt.minusHours 9 (by decide)).year := by
    obtain ⟨hlow, -⟩ := dt.year_minusHours 9 (by decide)
    have := h.year_pos
    unfold chronoMinYear
    omega
  exact ⟨_, if_neg (not_lt.2 hyear)⟩

theorem Convertible.parseScheduledAt_eq (h : Convertible dt) (hutc : kstToUtc dt = some utc)
    (hparse : E.parseFromStr dt.stamp = some dt) (now : Instant) :
    parseScheduledAt E now (some dt.stamp) = utc.stamp := by
  have hstr : dt.stamp ≠ "" := by
    intro hempty
    have hlen := DateTime.length_stamp ⟨h.year_pos.trans' (by decide), h.year_le⟩
    rw [hempty] at hlen
    cases hlen
  apply Ses.parseScheduledAt_eq hstr
  rw [scheduledUtc, hparse]
  exact hutc

/-- Nine hours earlier the order is the same. -/
theorem Convertible.before_iff (h : Convertible dt) (hutc : kstToUtc dt = some utc)
    (hutc' : kstToUtc dt' = some utc') : utc.Before utc' ↔ dt.Before dt' := by
  rw [DateTime.before_iff, DateTime.before_iff, ← DateTime.lt_secs_iff _ _ (h.second_utc hutc),
    ← DateTime.lt_secs_iff _ _ h.second_lt, kstToUtc_secs hutc, kstToUtc_secs hutc']
  omega

theorem Convertible.utc_inj (h : Convertible dt) (h' : Convertible dt')
    (hutc : kstToUtc dt = some utc) (hutc' : kstToUtc dt' = some utc') :
    utc = utc' ↔ dt = dt' := by
  rw [← DateTime.secs_inj (h.second_utc hutc) (h'.second_utc hutc'), kstToUtc_secs hutc,
    kstToUtc_secs hutc', ← DateTime.secs_inj h.second_lt h'.second_lt]
  omega

/-- The stored text is that of the time nine hours earlier, and as texts the stored
values compare as the times asked for do. -/
theorem parseScheduledAt_exact (h : Convertible dt) (h' : Convertible dt')
    (hparse : E.parseFromStr dt.stamp = some dt) (hparse' : E.parseFromStr dt'.stamp = some dt')
    (now now' : Instant) :
    (∃ utc : DateTime, utc.second < 60 ∧ utc.secs = dt.secs - 32400 ∧ FourDigits utc.year ∧
      parseScheduledAt E now (some dt.stamp) = utc.stamp ∧ utc.stamp.length = 19) ∧
    (parseScheduledAt E now (some dt.stamp) < parseScheduledAt E now' (some dt'.stamp) ↔
      dt.Before dt') ∧
    (parseScheduledAt E now (some dt.stamp) = parseScheduledAt E now' (some dt'.stamp) ↔
      dt = dt') := by
  obtain ⟨utc, hutc⟩ := h.exists_utc
  obtain ⟨utc', hutc'⟩ := h'.exists_utc
  have hfour := h.fourDigits hutc
  have hfour' := h'.fourDigits hutc'
  rw [h.parseScheduledAt_eq hutc hparse now, h'.parseScheduledAt_eq hutc' hparse' now']
  refine ⟨⟨utc, h.second_utc hutc, kstToUtc_secs hutc, hfour, rfl, DateTime.length_stamp hfour⟩,
    ?_, ?_⟩
  · rw [DateTime.stamp_lt_iff hfour hfour']
    exact h.before_iff hutc hutc'
  · rw [DateTime.stamp_inj hfour hfour']
    exact h.utc_inj h' hutc hutc'

/-- Five in the morning of March 1st. -/
def march (year : Int) : DateTime :=
  { (Date.newYear year).midnight with
    month := 3, hour := 5
    month_pos := by decide
    month_le := by decide
    day_le := (Nat.le_add_left 1 27).trans (daysInMonth_pos year 3)
    hour_lt := by decide }

/-- The two texts of the sample parse. -/
def marchEnv : Env :=
  { sampleEnv with
    parseFromStr s :=
      if s = "2023-03-01 05:00:00" then some (march 2023)
      else if s = "2024-03-01 05:00:00" then some (march 2024)
      else none }

theorem parseScheduledAt_exact_sample :
    (march 2023).stamp = "2023-03-01 05:00:00" ∧ (march 2024).stamp = "2024-03-01 05:00:00" ∧
    parseScheduledAt marchEnv newYear (some (march 2023).stamp) = "2023-02-28 20:00:00" ∧
    parseScheduledAt marchEnv newYear (some (march 2024).stamp) = "2024-02-29 20:00:00" ∧
    parseScheduledAt marchEnv newYear (some (march 2023).stamp) <
      parseScheduledAt marchEnv newYear (some (march 2024).stamp) := by
  have h23 : (march 2023).stamp = "2023-03-01 05:00:00" := by decide
  have h24 : (march 2024).stamp = "2024-03-01 05:00:00" := by decide
  have hexact := @parseScheduledAt_exact marchEnv (march 2023) (march 2024)
    ⟨by decide, by decide, by decide⟩ ⟨by decide, by decide, by decide⟩ (by rw [h23]; rfl)
    (by rw [h24]; rfl) newYear newYear
  exact ⟨h23, h24, by decide, by decide, hexact.2.1.2 (Or.inl (by decide))⟩

end Ses
