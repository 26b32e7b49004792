import SesSender.Proofs.LifeCycle

/-! When a scheduled request is due. The row stores the asked-for KST time as a
UTC text, and the scheduler compares texts. -/

namespace Ses

open Calendar

variable {E : Env} {s t : Sys} {e : Event} {now₀ : Instant} {evs : List Event}

/-! ## The stored text -/

theorem kstToUtc_eq {dt utc : DateTime} (h : kstToUtc dt = some utc) :
    utc = dt.minusHours 9 (by decide) := by
  simp only [kstToUtc] at h
  by_cases hmin : (dt.minusHours 9 (by decide)).year < chronoMinYear
  · rw [if_pos hmin] at h
    cases h
  · rw [if_neg hmin] at h
    exact (Option.some.inj h).symm

theorem kstToUtc_secs {dt utc : DateTime} (h : kstToUtc dt = some utc) :
    utc.secs = dt.secs - 9 * 3600 := by
  rw [kstToUtc_eq h, DateTime.secs_minusHours]
  omega

/-- The text comparison is the comparison in time, up to the year 9999. -/
theorem stamp_le_now_iff {utc : DateTime} {now : Instant} (hnow : FourDigits now.year)
    (hyear : utc.year ≤ 9999) : utc.stamp ≤ now.stamp ↔ utc.secs ≤ now.secs := by
  by_cases hutc : FourDigits utc.year
  · exact DateTime.stamp_le_iff hutc hnow now.second_lt
  · have hneg : utc.year < 0 := by unfold FourDigits at hutc; omega
    have hlt : utc.year < now.year := by have := hnow.1; omega
    exact iff_of_true (DateTime.stamp_le_of_signed hutc hnow) (DateTime.secs_le_of_year_lt hlt)

/-- From the year 10000 on the text is early while the time is not. -/
theorem stamp_le_now_of_late {utc : DateTime} {now : Instant} (hnow : FourDigits now.year)
    (hyear : ¬ utc.year ≤ 9999) : utc.stamp ≤ now.stamp ∧ ¬ utc.secs ≤ now.secs := by
  have hutc : ¬ FourDigits utc.year := fun h => hyear h.2
  have hlt : now.year < utc.year := by have := hnow.2; omega
  have := DateTime.secs_lt_of_year_lt hlt now.second_lt
  exact ⟨DateTime.stamp_le_of_signed hutc hnow, by omega⟩

theorem parseScheduledAt_eq {str : String} {utc : DateTime} (hstr : str ≠ "")
    (h : scheduledUtc E str = some utc) (now : Instant) :
    parseScheduledAt E now (some str) = utc.stamp := by
  simp only [parseScheduledAt, if_neg hstr, h]

/-! ## Runs -/

/-- A clock reading since the start had reached the time the row stores. -/
def Reached (now₀ : Instant) (s : Sys) (row : RequestRow) : Prop :=
  ∃ now : Instant, now₀.secs ≤ now.secs ∧ now.secs ≤ s.now.secs ∧ row.scheduledAt ≤ now.stamp

theorem Reached.mono {row row' : RequestRow} (h : Reached now₀ s row)
    (hnow : s.now.secs ≤ t.now.secs) (hat : row'.scheduledAt = row.scheduledAt) :
    Reached now₀ t row' := by
  obtain ⟨now, h0, h1, hle⟩ := h
  exact ⟨now, h0, h1.trans hnow, hat ▸ hle⟩

/-- What a scheduler has claimed was due. What a handler offers itself was asked
for without a time. -/
structure OnTime (now₀ : Instant) (s : Sys) : Prop where
  clock : now₀.secs ≤ s.now.secs
  claimed : ∀ id ∈ s.schedulers.flatMap (·.ids), ∃ row, s.db.requests.get? id = some row ∧
    Reached now₀ s row
  unsent : ∀ req ∈ s.handlers.flatMap (·.unsent), req.scheduledAt = none ∨ req.scheduledAt = some ""

theorem CreateMessageRequest.not_scheduled {payload : CreateMessageRequest}
    (h : payload.isScheduled = false) :
    payload.scheduledAt = none ∨ payload.scheduledAt = some "" := by
  unfold CreateMessageRequest.isScheduled at h
  cases hs : payload.scheduledAt with
  | none => exact Or.inl rfl
  | some str =>
    rw [hs] at h
    simp only [ne_eq, decide_not, Bool.not_eq_eq_eq_not, Bool.not_false, decide_eq_true_eq] at h
    exact Or.inr (congrArg some h)

/-- `save_batch` returns the requests with the time they came with. -/
theorem saved_scheduledAt {contents : Table ContentRow} {clock : ℕ → Instant} {F : TxFaults}
    {payload : CreateMessageRequest} {savedContents : List EmailContent}
    {saved : List EmailRequest} {r r' : Table RequestRow}
    (h : EmailRequest.saveBatch E contents clock F (payload.requests savedContents) r =
      .ok (saved, r')) {req : EmailRequest} (hreq : req ∈ saved) :
    req.scheduledAt = payload.scheduledAt := by
  obtain ⟨_, req₀, hreq₀, rfl⟩ := EmailRequest.mem_saved h hreq
  exact (CreateMessageRequest.mem_requests hreq₀).2.1

theorem OnTime.init (now₀ : Instant) : OnTime now₀ (Sys.init now₀) :=
  ⟨le_refl _, by simp [Sys.init, Sys.boot], by simp [Sys.init, Sys.boot]⟩

/-- What a step adds to the requests still to be offered, it has just saved for a
payload without a time. -/
theorem Sys.Step.unsent (hs : s.Step E e t) : ∀ req ∈ t.handlers.flatMap (·.unsent),
    req ∈ s.handlers.flatMap (·.unsent) ∨ req.scheduledAt = none ∨ req.scheduledAt = some "" := by
  intro req hreq
  have hset : ∀ {i : ℕ} {f h : Handler}, s.handlers[i]? = some h →
      req ∈ (s.setHandler i f).handlers.flatMap (·.unsent) → f.unsent <:+ h.unsent →
      req ∈ s.handlers.flatMap (·.unsent) := by
    intro i f h hi hreq hsuf
    rcases Lists.mem_flatMap_set hreq with hreq | hreq
    · exact mem_handlers hi (hsuf.subset hreq)
    · exact hreq
  have hnext : ∀ (req : EmailRequest) (rest : List EmailRequest) (loop : HandOff)
      (response : CreateMessageResponse),
      (Handler.next rest loop response).unsent <:+ req :: rest := by
    intro req rest loop response
    rw [Handler.unsent_next]
    exact List.suffix_cons req rest
  cases hs with
  | request => simpa [Handler.unsent] using Or.inl hreq
  | contentsRefused _ handler => exact Or.inl (hset handler hreq List.nil_suffix)
  | contentsSaved handler => exact Or.inl (hset handler hreq List.nil_suffix)
  | requestsRefused _ handler => exact Or.inl (hset handler hreq List.nil_suffix)
  | scheduledSaved _ handler => exact Or.inl (hset handler hreq List.nil_suffix)
  | immediateSaved _ handler immediate save =>
    rcases Lists.mem_flatMap_set hreq with hreq | hreq
    · rw [Handler.unsent_next] at hreq
      exact Or.inr (saved_scheduledAt save hreq ▸ CreateMessageRequest.not_scheduled immediate)
    · exact Or.inl hreq
  | handOffFailed handler => exact Or.inl (hset handler hreq (hnext _ _ _ _))
  | handOffAccepted handler => exact Or.inl (hset handler hreq (hnext _ _ _ _))
  | handOffBlocked handler => exact Or.inl (hset handler hreq (List.suffix_refl _))
  | blockedAccepted handler => exact Or.inl (hset handler hreq (hnext _ _ _ _))
  | blockedClosed handler => exact Or.inl (hset handler hreq (hnext _ _ _ _))
  | rolledBack handler => exact Or.inl (hset handler hreq List.nil_suffix)
  | rollbackFailed handler => exact Or.inl (hset handler hreq List.nil_suffix)
  | dropHandler handler => exact Or.inl (hset handler hreq List.nil_suffix)
  | restart => cases hreq
  | _ => exact Or.inl hreq

/-- What a step adds to the ids the schedulers hold, it has just claimed. -/
theorem Sys.Step.scheduler_ids (hs : s.Step E e t) : ∀ id ∈ t.schedulers.flatMap (·.ids),
    id ∈ s.schedulers.flatMap (·.ids) ∨
      ∃ row, s.db.requests.get? id = some row ∧ row.scheduledAt ≤ s.now.stamp := by
  intro id hid
  have hmem : ∀ {j : ℕ} {c : Scheduler}, s.schedulers[j]? = some c → id ∈ c.ids →
      id ∈ s.schedulers.flatMap (·.ids) :=
    fun hj hc => List.mem_flatMap.2 ⟨_, List.mem_of_getElem? hj, hc⟩
  cases hs with
  | spawnScheduler => simpa [Scheduler.ids] using Or.inl hid
  | claimUnread =>
    rcases Lists.mem_flatMap_set hid with hid | hid
    · cases hid
    · exact Or.inl hid
  | claimed _ oldest returned =>
    rcases Lists.mem_flatMap_set hid with hid | hid
    · rw [Scheduler.ids_ofUpdated, returning_ids returned] at hid
      obtain ⟨row, hrow, -, hdue⟩ := oldest.due hid
      exact Or.inr ⟨row, hrow, hdue⟩
    · exact Or.inl hid
  | fetchFailed =>
    rcases Lists.mem_flatMap_set hid with hid | hid
    · cases hid
    · exact Or.inl hid
  | fetchUnread =>
    rcases Lists.mem_flatMap_set hid with hid | hid
    · cases hid
    · exact Or.inl hid
  | fetched scheduler selected perm =>
    rcases Lists.mem_flatMap_set hid with hid | hid
    · rw [Scheduler.ids_next, (perm.map _).mem_iff, selectScheduled_ids selected] at hid
      obtain ⟨⟨id, row, c⟩, hj, rfl⟩ := List.mem_map.1 hid
      exact Or.inl (hmem scheduler (mem_joined.1 hj).1)
    · exact Or.inl hid
  | schedulerSent scheduler =>
    rcases Lists.mem_flatMap_set hid with hid | hid
    · rw [Scheduler.ids_next] at hid
      exact Or.inl (hmem scheduler (List.mem_cons_of_mem _ hid))
    · exact Or.inl hid
  | schedulerClosed =>
    rcases Lists.mem_flatMap_set hid with hid | hid
    · cases hid
    · exact Or.inl hid
  | restart => cases hid
  | _ => exact Or.inl hid

theorem OnTime.step (hs : s.Step E e t) (h : OnTime now₀ s) : OnTime now₀ t := by
  have hgrows := hs.grows
  refine ⟨h.clock.trans hgrows.now, fun id hid => ?_, ?_⟩
  · have hreached : ∃ row, s.db.requests.get? id = some row ∧ Reached now₀ s row := by
      rcases hs.scheduler_ids id hid with hold | ⟨row, hrow, hdue⟩
      · exact h.claimed id hold
      · exact ⟨row, hrow, s.now, h.clock, le_refl _, hdue⟩
    obtain ⟨row, hrow, hreached⟩ := hreached
    obtain ⟨row', hrow', hat⟩ := hgrows.rows id row hrow
    exact ⟨row', hrow', hreached.mono hgrows.now hat⟩
  · intro req hreq
    rcases hs.unsent req hreq with hold | hnone
    · exact h.unsent req hold
    · exact hnone

theorem Run.onTime (hrun : Run E now₀ evs s) : OnTime now₀ s :=
  Exec.run_keeps (fun hs h => h.step (Sys.Step.of_step hs)) hrun (OnTime.init now₀)

/-- The channel accepts a request from a handler that still has it to offer, or the
one of the next row of a scheduler. -/
theorem Sys.Step.accepted (hs : s.Step E e t) {req : EmailRequest}
    (hacc : t.hist.accepted = s.hist.accepted ++ [req]) :
    req ∈ s.handlers.flatMap (·.unsent) ∨ ∃ (j : ℕ) (row : ScheduledEmailRow) (rest : List _),
      s.schedulers[j]? = some (.sending (row :: rest)) ∧ req = row.toRequest := by
  have hnone : s.hist.accepted ≠ s.hist.accepted ++ [req] := by simp
  have hone : ∀ {req' : EmailRequest}, s.hist.accepted ++ [req'] = s.hist.accepted ++ [req] →
      req = req' := fun h => (List.singleton_inj.1 (List.append_cancel_left h)).symm
  cases hs with
  | handOffAccepted handler =>
    rw [hone hacc]
    exact Or.inl (mem_handlers handler (by simp [Handler.unsent]))
  | blockedAccepted handler =>
    rw [hone hacc]
    exact Or.inl (mem_handlers handler (by simp [Handler.unsent]))
  | schedulerSent scheduler => exact Or.inr ⟨_, _, _, scheduler, hone hacc⟩
  | _ => exact absurd hacc hnone

/-! ## Early and late -/

/-- Nine hours earlier the year is at most 9999. -/
def BeforeYear10000 (dt : DateTime) : Prop :=
  dt.year ≤ 9999 ∨ dt.year = 10000 ∧ dt.month = 1 ∧ dt.day = 1 ∧ dt.hour < 9

theorem kstToUtc_year {dt utc : DateTime} (h : kstToUtc dt = some utc) :
    utc.year ≤ 9999 ↔ BeforeYear10000 dt := by
  rw [kstToUtc_eq h]
  have hm := dt.month_pos
  have hd := dt.day_pos
  unfold BeforeYear10000 DateTime.minusHours
  split_ifs with hh
  · simp only
    omega
  · simp only [Date.pred]
    split_ifs <;> simp only <;> omega

instance (dt : DateTime) : Decidable (BeforeYear10000 dt) :=
  inferInstanceAs (Decidable (_ ∨ _ ∧ _ ∧ _ ∧ _))

/-- The text test is the test in time exactly for the times before the year 10000 in
UTC, and a request with such a time is never pushed before it has come. -/
theorem due_when_come {str : String} {dt : DateTime} (hstr : str ≠ "")
    (hparse : E.parseFromStr str = some dt) (hutc : (kstToUtc dt).isSome) :
    ((∀ (saved now : Instant) (req : EmailRequest) (row : RequestRow), FourDigits now.year →
        req.scheduledAt = some str → EmailRequest.toRow E saved req = some row →
        (row.scheduledAt ≤ now.stamp ↔ dt.secs - 9 * 3600 ≤ now.secs)) ↔ BeforeYear10000 dt) ∧
    (BeforeYear10000 dt → ∀ (now₀ : Instant) (evs : List Event) (s : Sys) (e : Event) (t : Sys)
      (req : EmailRequest), 0 ≤ now₀.year → s.now.year ≤ 9999 → Run E now₀ evs s →
      s.step E e = some t → t.hist.accepted = s.hist.accepted ++ [req] →
      (req ∈ s.handlers.flatMap (·.unsent) ∧ req.scheduledAt ≠ some str) ∨
      ∃ (j : ℕ) (row : ScheduledEmailRow) (rest : List ScheduledEmailRow) (stored : RequestRow),
        s.schedulers[j]? = some (.sending (row :: rest)) ∧ req = row.toRequest ∧
        s.db.requests.get? row.id = some stored ∧
        ∀ saved, stored.scheduledAt = parseScheduledAt E saved (some str) →
          dt.secs - 9 * 3600 ≤ s.now.secs) := by
  obtain ⟨utc, hutc⟩ := Option.isSome_iff_exists.1 hutc
  have hsch : scheduledUtc E str = some utc := by rw [scheduledUtc, hparse]; exact hutc
  rw [← kstToUtc_secs hutc, ← kstToUtc_year hutc]
  refine ⟨⟨fun hall => ?_, fun hyear saved now req row hnow hat hto => ?_⟩, ?_⟩
  · by_contra hyear
    have hnow : FourDigits newYear.year := by decide
    obtain ⟨hle, hlate⟩ := stamp_le_now_of_late hnow hyear
    let req : EmailRequest := ⟨none, some "", some 0, "", "", "", some str, 0, none, none⟩
    refine hlate ((hall newYear newYear req _ hnow rfl rfl).1 ?_)
    rwa [parseScheduledAt_eq hstr hsch]
  · obtain ⟨_, _, _, _, rfl⟩ := EmailRequest.toRow_eq_some.1 hto
    rw [hat, parseScheduledAt_eq hstr hsch]
    exact stamp_le_now_iff hnow hyear
  · intro hyear now₀ evs s e t req h0 h1 hrun hs hacc
    have hot := hrun.onTime
    rcases (Sys.Step.of_step hs).accepted hacc with hreq | ⟨j, row, rest, hj, rfl⟩
    · refine Or.inl ⟨hreq, ?_⟩
      rcases hot.unsent req hreq with hat | hat <;> rw [hat]
      · simp
      · simpa [eq_comm] using hstr
    · have hid : row.id ∈ s.schedulers.flatMap (·.ids) :=
        List.mem_flatMap.2 ⟨_, List.mem_of_getElem? hj, by simp [Scheduler.ids]⟩
      obtain ⟨stored, hstored, now, hfrom, hto, hle⟩ := hot.claimed row.id hid
      refine Or.inr ⟨j, row, rest, stored, hj, rfl, hstored, fun saved hat => ?_⟩
      rw [hat, parseScheduledAt_eq hstr hsch] at hle
      have hnow : FourDigits now.year := ⟨?_, ?_⟩
      · exact ((stamp_le_now_iff hnow hyear).1 hle).trans hto
      · by_contra hneg
        have := DateTime.secs_lt_of_year_lt (show now.year < now₀.year by omega) now.second_lt
        omega
      · by_contra hbig
        have := DateTime.secs_lt_of_year_lt (show s.now.year < now.year by omega) s.now.second_lt
        omega

def dueEvents (str : String) : List Event :=
  [.request (sampleMail "a" (some str))] ++ saving 0 ++ [.spawnScheduler, .claimBatch 0 [1] true,
    .fetchContents 0 [⟨1, "a", 1, "reader@example.com", "Hello", "<p>Hi</p>"⟩] true]

theorem due_when_come_sample :
    ∃ (s t : Sys) (dt : DateTime) (row : ScheduledEmailRow) (stored : RequestRow),
      Run sampleEnv newYear (dueEvents "2030-01-01 09:00:00") s ∧
      s.step sampleEnv (.schedulerSend 0 true) = some t ∧ t.hist.accepted = [row.toRequest] ∧
      sampleEnv.parseFromStr "2030-01-01 09:00:00" = some dt ∧
      s.db.requests.get? row.id = some stored ∧
      (stored.scheduledAt =
        parseScheduledAt sampleEnv newYear (some "2030-01-01 09:00:00") →
          dt.secs - 9 * 3600 ≤ s.now.secs) := by
  obtain ⟨s, hs, hp⟩ := Exec.exists_of_any (Sys.step sampleEnv) (Sys.init newYear)
    (dueEvents "2030-01-01 09:00:00")
    (fun s => decide (s.now.year ≤ 9999 ∧ s.hist.accepted = [] ∧
        s.handlers.flatMap (·.unsent) = []) &&
      (s.step sampleEnv (.schedulerSend 0 true)).any fun t : Sys =>
        decide (t.hist.accepted.length = 1)) (by decide)
  simp only [Bool.and_eq_true, decide_eq_true_eq, Option.any_eq_true] at hp
  obtain ⟨⟨hyear, hempty, hunsent⟩, t, ht, hlen⟩ := hp
  obtain ⟨req, hreq⟩ := List.length_eq_one_iff.1 hlen
  have hacc : t.hist.accepted = s.hist.accepted ++ [req] := by rw [hempty, hreq]; rfl
  have hdue := (@due_when_come sampleEnv "2030-01-01 09:00:00" _ (by decide) rfl (by decide)).2
    (by decide) newYear _ s _ t req (by decide) hyear hs ht hacc
  rcases hdue with ⟨hmem, -⟩ | ⟨j, row, rest, stored, -, rfl, hstored, hle⟩
  · rw [hunsent] at hmem
    cases hmem
  · exact ⟨s, t, _, row, stored, hs, ht, hreq, rfl, hstored, hle newYear⟩

/-- The strings of year 10000 parse. -/
def lateEnv : Env :=
  { sampleEnv with
    parseFromStr s :=
      if s = "+10000-01-01 12:00:00" then
        some { (Date.newYear 10000).midnight with hour := 12, hour_lt := by decide }
      else none }

/-- At the start of 2030 the row of a mail scheduled for the year 10000 is due, and
the mail is pushed. -/
theorem pushed_8000_years_early :
    ∃ (s : Sys) (dt : DateTime) (row : RequestRow),
      Run lateEnv newYear (dueEvents "+10000-01-01 12:00:00" ++ [.schedulerSend 0 true]) s ∧
      lateEnv.parseFromStr "+10000-01-01 12:00:00" = some dt ∧ (kstToUtc dt).isSome ∧
      s.db.requests.get? 1 = some row ∧
      row.scheduledAt = parseScheduledAt lateEnv newYear (some "+10000-01-01 12:00:00") ∧
      row.scheduledAt ≤ s.now.stamp ∧ s.now.secs < dt.secs - 9 * 3600 ∧
      s.hist.accepted.map (·.rowid) = [some 1] := by
  obtain ⟨s, hs, hp⟩ := Exec.exists_of_any (Sys.step lateEnv) (Sys.init newYear)
    (dueEvents "+10000-01-01 12:00:00" ++ [.schedulerSend 0 true])
    (fun s => (s.db.requests.get? 1).any fun row =>
      decide (row.scheduledAt = parseScheduledAt lateEnv newYear (some "+10000-01-01 12:00:00") ∧
        row.scheduledAt ≤ s.now.stamp ∧
        s.now.secs < ((Date.newYear 10000).midnight).secs + 12 * 3600 - 9 * 3600 ∧
        s.hist.accepted.map (·.rowid) = [some 1])) (by decide)
  simp only [decide_eq_true_eq, Option.any_eq_true] at hp
  obtain ⟨row, hrow, hat, hle, hlt, hacc⟩ := hp
  refine ⟨s, _, row, hs, rfl, by decide, hrow, hat, hle, ?_, hacc⟩
  exact hlt

end Ses
