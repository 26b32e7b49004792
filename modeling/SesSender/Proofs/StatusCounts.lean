import Mathlib.Algebra.BigOperators.Ring.Finset
import SesSender.Lib.Lists
import SesSender.Spec.Statistics

/-! `get_request_counts_by_topic_id` against the rows of the topic. The groups
are right, and so are the entries of the five statuses; all other statuses share
one label, and of two groups with one label the map keeps one. -/

namespace Ses

open Grouping

variable {topicId : String} {t : Table RequestRow} {rows : List (Int32 × Int32)}

/-! ## Labels -/

theorem unknownStatus_iff {status : Int} :
    unknownStatus status = true ↔ ∀ st : EmailMessageStatus, status ≠ st.asI32 := by
  simp only [unknownStatus, List.all_eq_true, decide_eq_true_eq]
  exact ⟨fun h st => h st (by cases st <;> simp), fun h st _ => h st⟩

theorem statusLabel_cases (v : Int32) :
    (∃ st : EmailMessageStatus, v.toInt = st.asI32 ∧ statusLabel v = st.asStr) ∨
      unknownStatus v.toInt ∧ statusLabel v = "Unknown" := by
  unfold statusLabel
  cases hv : EmailMessageStatus.fromI32 v with
  | some st => exact Or.inl ⟨st, EmailMessageStatus.fromI32_eq_some.1 hv, rfl⟩
  | none =>
    refine Or.inr ⟨unknownStatus_iff.2 fun st hst => ?_, rfl⟩
    rw [EmailMessageStatus.fromI32_eq_some.2 hst] at hv
    cases hv

theorem statusLabel_named {v : Int32} {st : EmailMessageStatus} :
    statusLabel v = st.asStr ↔ v.toInt = st.asI32 := by
  rcases statusLabel_cases v with ⟨st', hv, hl⟩ | ⟨hv, hl⟩
  · rw [hl, hv]
    exact ⟨fun h => by rw [EmailMessageStatus.asStr_injective h],
      fun h => by cases st <;> cases st' <;> first | rfl | cases h⟩
  · rw [hl]
    exact ⟨fun h => by cases st <;> exact absurd h (by decide),
      fun h => absurd h (unknownStatus_iff.1 hv st)⟩

theorem statusLabel_unknown {v : Int32} :
    statusLabel v = "Unknown" ↔ unknownStatus v.toInt = true := by
  rcases statusLabel_cases v with ⟨st, hv, hl⟩ | ⟨hv, hl⟩
  · rw [hl]
    exact ⟨fun h => by cases st <;> exact absurd h (by decide),
      fun h => absurd hv (unknownStatus_iff.1 h st)⟩
  · exact ⟨fun _ => hv, fun _ => hl⟩

/-! ## The rows fetched -/

theorem mem_statusGroups {status n : Int} : (status, n) ∈ statusGroups topicId t ↔
    (∃ r ∈ topicRows topicId t, r.2.status = status) ∧
      n = statusCount topicId t (· = status) := by
  simp only [statusGroups, List.mem_map, Prod.mk.injEq]
  refine ⟨?_, ?_⟩
  · rintro ⟨⟨status, g⟩, hg, rfl, rfl⟩
    obtain ⟨hr, rfl⟩ := mem_groupBy.1 hg
    exact ⟨hr, rfl⟩
  · rintro ⟨hr, rfl⟩
    exact ⟨_, mem_groupBy.2 ⟨hr, rfl⟩, rfl, rfl⟩

theorem nodup_statusGroups (topicId : String) (t : Table RequestRow) :
    ((statusGroups topicId t).map Prod.fst).Nodup := by
  have h := keys_groupBy (fun r : Int × RequestRow => r.2.status) (topicRows topicId t)
  rw [statusGroups, List.map_map]
  change ((groupBy (fun r : Int × RequestRow => r.2.status) _).map Prod.fst).Nodup
  rw [h]
  exact List.nodup_dedup _

theorem sum_statusGroups (topicId : String) (t : Table RequestRow) :
    ((statusGroups topicId t).map Prod.snd).sum = (topicRows topicId t).length := by
  rw [← sum_length_groupBy (fun r : Int × RequestRow => r.2.status), Nat.cast_list_sum,
    List.map_map, statusGroups, List.map_map]
  rfl

theorem statusCount_eq_zero {p : Int → Bool}
    (h : ∀ r ∈ topicRows topicId t, ¬ p r.2.status = true) : statusCount topicId t p = 0 := by
  rw [statusCount, List.length_eq_zero_iff, List.filter_eq_nil_iff]
  exact h

/-- A fetched row as the query gave it. -/
def widen (r : Int32 × Int32) : Int × Int := (r.1.toInt, r.2.toInt)

theorem fetchGroup_eq_some {g : Int × Int} {r : Int32 × Int32} :
    fetchGroup g = some r ↔ g = widen r := by
  obtain ⟨status, n⟩ := g
  simp only [fetchGroup, Option.bind_eq_some_iff, Option.map_eq_some_iff]
  refine ⟨?_, ?_⟩
  · rintro ⟨v, hv, c, hc, rfl⟩
    rw [widen, decodeI32_eq_some hv, decodeI32_eq_some hc]
  · intro h
    obtain ⟨rfl, rfl⟩ := Prod.mk.inj h
    exact ⟨_, decodeI32_toInt _, _, decodeI32_toInt _, rfl⟩

/-- The groups of the topic, fetched in some order. -/
def FetchedGroups (topicId : String) (t : Table RequestRow) (rows : List (Int32 × Int32)) : Prop :=
  (rows.map widen).Perm (statusGroups topicId t)

theorem fetched_of_mapM {groups : List (Int × Int)} (h : groups.mapM fetchGroup = some rows)
    (hgroups : groups.Perm (statusGroups topicId t)) : FetchedGroups topicId t rows := by
  have hmap := Lists.forall₂_map_eq (Lists.mapM_eq_some.1 h)
    (f := id) (g := widen) fun g r hr => fetchGroup_eq_some.1 hr
  rw [List.map_id] at hmap
  rw [FetchedGroups, ← hmap]
  exact hgroups

theorem FetchedGroups.mem (h : FetchedGroups topicId t rows) {v c : Int32} : (v, c) ∈ rows ↔
    (∃ r ∈ topicRows topicId t, r.2.status = v.toInt) ∧
      c.toInt = statusCount topicId t (· = v.toInt) := by
  rw [← mem_statusGroups, ← h.mem_iff, List.mem_map]
  refine ⟨?_, ?_⟩
  · exact fun hmem => ⟨_, hmem, rfl⟩
  · rintro ⟨⟨v', c'⟩, hmem, heq⟩
    obtain ⟨hv, hc⟩ := Prod.mk.inj heq
    rwa [← Int32.toInt_inj.1 hv, ← Int32.toInt_inj.1 hc]

theorem FetchedGroups.exists_mem (h : FetchedGroups topicId t rows) {r : Int × RequestRow}
    (hr : r ∈ topicRows topicId t) : ∃ p ∈ rows, p.1.toInt = r.2.status := by
  have hmem := h.mem_iff.2 (mem_statusGroups.2 ⟨⟨r, hr, rfl⟩, rfl⟩)
  obtain ⟨p, hp, heq⟩ := List.mem_map.1 hmem
  exact ⟨p, hp, (Prod.mk.inj heq).1⟩

theorem FetchedGroups.nodup (h : FetchedGroups topicId t rows) : (rows.map Prod.fst).Nodup := by
  have hn := (h.map Prod.fst).nodup_iff.2 (nodup_statusGroups topicId t)
  rw [List.map_map] at hn
  refine List.Nodup.of_map Int32.toInt ?_
  rwa [List.map_map]

/-! ## The map -/

/-- The map the rows are collected into. -/
def labelled (rows : List (Int32 × Int32)) : Counts :=
  collect (rows.map fun r => (statusLabel r.1, r.2))

theorem mem_labelled {label : String} {c : Int32}
    (h : (labelled rows).lookup label = some c) : ∃ v, statusLabel v = label ∧ (v, c) ∈ rows := by
  obtain ⟨⟨v, c⟩, hp, heq⟩ := List.mem_map.1 (mem_of_lookup_collect h)
  obtain ⟨rfl, rfl⟩ := Prod.mk.inj heq
  exact ⟨v, rfl, hp⟩

/-- A label that stands for one status among those of the topic counts its rows. -/
theorem FetchedGroups.get_label (h : FetchedGroups topicId t rows) {label : String} {status : Int}
    (hlabel : ∀ p ∈ rows, statusLabel p.1 = label ↔ p.1.toInt = status) :
    (labelled rows).get label = statusCount topicId t (· = status) := by
  have hcount : ∀ v c, (v, c) ∈ rows → statusLabel v = label →
      c.toInt = statusCount topicId t (· = status) := by
    intro v c hp hl
    rw [← (hlabel _ hp).1 hl]
    exact (h.mem.1 hp).2
  cases hl : (labelled rows).lookup label with
  | some c =>
    obtain ⟨v, hv, hp⟩ := mem_labelled hl
    rw [Counts.get, hl, ← hcount v c hp hv]
    rfl
  | none =>
    have hnone : statusCount topicId t (· = status) = 0 := by
      refine statusCount_eq_zero fun r hr hst => ?_
      obtain ⟨p, hp, hps⟩ := h.exists_mem hr
      refine lookup_collect_eq_none.1 hl (List.mem_map.2 ⟨_, List.mem_map_of_mem hp, ?_⟩)
      exact (hlabel p hp).2 (hps.trans (of_decide_eq_true hst))
    rw [Counts.get, hl, hnone]
    rfl

theorem FetchedGroups.get_named (h : FetchedGroups topicId t rows) (st : EmailMessageStatus) :
    (labelled rows).get st.asStr = statusCount topicId t (· = st.asI32) :=
  h.get_label fun _ _ => statusLabel_named

/-! ## When the counts are right -/

/-- Every status of the topic fits an `i32`, so does the number of its rows, and
at most one of them is none of the five. -/
structure OneUnknown (topicId : String) (t : Table RequestRow) : Prop where
  fits : ∀ r ∈ topicRows topicId t, ∃ v : Int32, v.toInt = r.2.status
  few : ∀ status : Int, statusCount topicId t (· = status) ≤ i32Max
  one : ∀ r ∈ topicRows topicId t, ∀ r' ∈ topicRows topicId t, unknownStatus r.2.status = true →
    unknownStatus r'.2.status = true → r.2.status = r'.2.status

theorem OneUnknown.fetches (h : OneUnknown topicId t) {groups : List (Int × Int)}
    (hgroups : groups.Perm (statusGroups topicId t)) :
    ∃ rows, groups.mapM fetchGroup = some rows := by
  refine Lists.mapM_isSome fun ⟨status, n⟩ hg => ?_
  obtain ⟨⟨r, hr, rfl⟩, rfl⟩ := mem_statusGroups.1 (hgroups.mem_iff.1 hg)
  obtain ⟨v, hv⟩ := h.fits r hr
  have hfew := h.few r.2.status
  refine ⟨(v, asI32 (statusCount topicId t (· = r.2.status))), fetchGroup_eq_some.2 ?_⟩
  rw [widen, hv, asI32_toInt (by omega) hfew]

theorem FetchedGroups.labels_nodup (h : FetchedGroups topicId t rows) (hone : OneUnknown topicId t) :
    ((rows.map fun r => (statusLabel r.1, r.2)).map Prod.fst).Nodup := by
  have heq : (rows.map fun r => (statusLabel r.1, r.2)).map Prod.fst =
      (rows.map Prod.fst).map statusLabel := by simp [Function.comp_def]
  rw [heq]
  refine List.Nodup.map_on (fun v hv v' hv' hl => ?_) h.nodup
  obtain ⟨⟨v, c⟩, hp, rfl⟩ := List.mem_map.1 hv
  obtain ⟨⟨v', c'⟩, hp', rfl⟩ := List.mem_map.1 hv'
  refine Int32.toInt_inj.1 ?_
  rcases statusLabel_cases v with ⟨st, hst, hlab⟩ | ⟨hunk, hlab⟩
  · rw [hst, ← statusLabel_named.1 (hl.symm.trans hlab)]
  · obtain ⟨⟨r, hr, hrv⟩, -⟩ := h.mem.1 hp
    obtain ⟨⟨r', hr', hrv'⟩, -⟩ := h.mem.1 hp'
    have hunk' := statusLabel_unknown.1 (hl.symm.trans hlab)
    simp only at hunk hunk' hrv hrv' ⊢
    rw [← hrv] at hunk ⊢
    rw [← hrv'] at hunk' ⊢
    exact hone.one r hr r' hr' hunk hunk'

theorem FetchedGroups.total (h : FetchedGroups topicId t rows) (hone : OneUnknown topicId t) :
    (labelled rows).total = (topicRows topicId t).length := by
  have hsum := (h.map Prod.snd).sum_eq
  rw [sum_statusGroups, List.map_map] at hsum
  rw [Counts.total, labelled, total_collect _ (h.labels_nodup hone), List.map_map]
  exact hsum

theorem FetchedGroups.get_unknown (h : FetchedGroups topicId t rows) (hone : OneUnknown topicId t) :
    (labelled rows).get "Unknown" = statusCount topicId t unknownStatus := by
  by_cases hex : ∃ r ∈ topicRows topicId t, unknownStatus r.2.status = true
  · obtain ⟨r, hr, hunk⟩ := hex
    have hall : statusCount topicId t unknownStatus =
        statusCount topicId t (· = r.2.status) := by
      rw [statusCount, statusCount]
      refine congrArg List.length (List.filter_congr fun r' hr' => ?_)
      rw [Bool.eq_iff_iff, decide_eq_true_eq]
      exact ⟨fun hunk' => hone.one r' hr' r hr hunk' hunk, fun heq => heq ▸ hunk⟩
    rw [hall]
    refine h.get_label fun ⟨v, c⟩ hp => ?_
    obtain ⟨⟨r', hr', hrv⟩, -⟩ := h.mem.1 hp
    rw [statusLabel_unknown]
    simp only
    rw [← hrv]
    exact ⟨fun hunk' => hone.one r' hr' r hr hunk' hunk, fun heq => heq ▸ hunk⟩
  · -- no row of the topic has such a status, nor has any group
    have hzero : statusCount topicId t unknownStatus = 0 :=
      statusCount_eq_zero fun r hr hunk => hex ⟨r, hr, hunk⟩
    cases hl : (labelled rows).lookup "Unknown" with
    | none => rw [Counts.get, hl, hzero]; rfl
    | some c =>
      obtain ⟨v, hv, hp⟩ := mem_labelled hl
      obtain ⟨⟨r, hr, hrv⟩, -⟩ := h.mem.1 hp
      exact absurd ⟨r, hr, hrv ▸ statusLabel_unknown.1 hv⟩ hex

/-- Of two unknown statuses only one is counted. -/
theorem FetchedGroups.one_of_get_unknown (h : FetchedGroups topicId t rows)
    (hget : (labelled rows).get "Unknown" = statusCount topicId t unknownStatus)
    {r r' : Int × RequestRow} (hr : r ∈ topicRows topicId t) (hr' : r' ∈ topicRows topicId t)
    (hunk : unknownStatus r.2.status = true) (hunk' : unknownStatus r'.2.status = true) :
    r.2.status = r'.2.status := by
  cases hl : (labelled rows).lookup "Unknown" with
  | none =>
    obtain ⟨p, hp, hps⟩ := h.exists_mem hr
    refine absurd (List.mem_map.2 ⟨_, List.mem_map_of_mem hp, ?_⟩) (lookup_collect_eq_none.1 hl)
    exact statusLabel_unknown.2 (hps ▸ hunk)
  | some c =>
    obtain ⟨v, hv, hp⟩ := mem_labelled hl
    have hc := (h.mem.1 hp).2
    have hvunk := statusLabel_unknown.1 hv
    have hall : statusCount topicId t (· = v.toInt) = statusCount topicId t unknownStatus := by
      rw [Counts.get, hl] at hget
      change c.toInt = _ at hget
      omega
    -- the counted rows are rows with an unknown status, and as many
    have hsub : (topicRows topicId t).filter (fun r => decide (r.2.status = v.toInt)) =
        ((topicRows topicId t).filter fun r => unknownStatus r.2.status).filter
          fun r => decide (r.2.status = v.toInt) := by
      rw [List.filter_filter]
      refine List.filter_congr fun r _ => ?_
      by_cases hrv : r.2.status = v.toInt <;> simp [hrv, hvunk]
    have hevery : ∀ r ∈ topicRows topicId t, unknownStatus r.2.status = true →
        r.2.status = v.toInt := by
      rw [statusCount, statusCount, hsub, List.length_filter_eq_length_iff] at hall
      intro r hr hunk
      exact of_decide_eq_true (hall r (List.mem_filter.2 ⟨hr, hunk⟩))
    rw [hevery r hr hunk, hevery r' hr' hunk']

/-- What is fetched fits. -/
theorem FetchedGroups.oneUnknown (h : FetchedGroups topicId t rows)
    (hget : (labelled rows).get "Unknown" = statusCount topicId t unknownStatus) :
    OneUnknown topicId t := by
  refine ⟨fun r hr => ?_, fun status => ?_, fun r hr r' hr' => h.one_of_get_unknown hget hr hr'⟩
  · obtain ⟨p, -, hps⟩ := h.exists_mem hr
    exact ⟨p.1, hps⟩
  · by_cases hex : ∃ r ∈ topicRows topicId t, r.2.status = status
    · obtain ⟨r, hr, rfl⟩ := hex
      obtain ⟨⟨v, c⟩, hp, hps⟩ := h.exists_mem hr
      have hc := (h.mem.1 hp).2
      simp only at hps
      rw [← hps, ← hc]
      have := c.toInt_lt
      unfold i32Max
      omega
    · have hzero : statusCount topicId t (· = status) = 0 :=
        statusCount_eq_zero fun r hr hst => hex ⟨r, hr, of_decide_eq_true hst⟩
      rw [hzero]
      decide

/-- The statistics of a topic account for every row exactly when the statuses
and their counts fit and at most one status is unknown. -/
theorem status_counts_iff (topicId : String) (t : Table RequestRow) (groups : List (Int × Int))
    (result : Except SqlxError Counts)
    (call : EmailRequest.getRequestCountsByTopicId groups topicId t = some result) :
    (∃ m, result = .ok m ∧ StatusCounts topicId t m) ↔ OneUnknown topicId t := by
  unfold EmailRequest.getRequestCountsByTopicId at call
  split at call
  · cases call
  rename_i hperm
  have hgroups : groups.Perm (statusGroups topicId t) := List.isPerm_iff.1 (not_not.1 hperm)
  obtain rfl := Option.some.inj call
  refine ⟨?_, ?_⟩
  · rintro ⟨m, hm, hcounts⟩
    cases hrows : groups.mapM fetchGroup with
    | none => rw [hrows] at hm; cases hm
    | some rows =>
      rw [hrows] at hm
      obtain rfl : labelled rows = m := Except.ok.inj hm
      have hfetched := fetched_of_mapM hrows hgroups
      exact hfetched.oneUnknown hcounts.unknown
  · intro hone
    obtain ⟨rows, hrows⟩ := hone.fetches hgroups
    have hfetched := fetched_of_mapM hrows hgroups
    rw [hrows]
    exact ⟨labelled rows, rfl, hfetched.total hone, hfetched.get_named,
      hfetched.get_unknown hone⟩

/-- Requests of one topic with the given statuses. -/
def statusTable (statuses : List Int) : Table RequestRow :=
  Table.empty.append (statuses.map fun status =>
    { topicId := "news", contentId := 1, messageId := none, email := "a@example.com"
      scheduledAt := "", status, error := none, createdAt := "", updatedAt := "" })

theorem oneUnknown_sent : OneUnknown "news" (statusTable [2, 7, 2]) := by
  have hrows : ∀ r ∈ topicRows "news" (statusTable [2, 7, 2]), r.2.status = 2 ∨ r.2.status = 7 := by
    decide
  refine ⟨fun r hr => ?_, fun status => ?_, fun r hr r' hr' hunk hunk' => ?_⟩
  · rcases hrows r hr with h | h
    · exact ⟨2, h.symm⟩
    · exact ⟨7, h.symm⟩
  · have hle : (statusCount "news" (statusTable [2, 7, 2]) (· = status) : Int) ≤ 3 :=
      Int.ofNat_le.2 (List.length_filter_le _ _)
    exact hle.trans (by decide)
  · rcases hrows r hr with h | h
    · rw [h] at hunk; cases hunk
    · rcases hrows r' hr' with h' | h'
      · rw [h'] at hunk'; cases hunk'
      · rw [h, h']

/-- Two sent rows and one of an unknown status: every row is accounted for. -/
theorem status_counts_sent :
    (∃ m, (.ok (collect [("Sent", 2), ("Unknown", 1)]) : Except SqlxError Counts) = .ok m ∧
      StatusCounts "news" (statusTable [2, 7, 2]) m) ∧
    OneUnknown "news" (statusTable [2, 7, 2]) :=
  ⟨(status_counts_iff "news" (statusTable [2, 7, 2]) [(2, 2), (7, 1)] _ (by decide)).2
    oneUnknown_sent, oneUnknown_sent⟩

/-- Two rows of statuses 7 and 9 are reported as one. -/
theorem unknown_overwritten :
    ¬ ∀ (topicId : String) (t : Table RequestRow) (groups : List (Int × Int))
      (result : Except SqlxError Counts),
      EmailRequest.getRequestCountsByTopicId groups topicId t = some result →
      ∃ m, result = .ok m ∧ StatusCounts topicId t m := by
  intro h
  obtain ⟨m, hm, hcounts⟩ := h "news" (statusTable [7, 9]) [(7, 1), (9, 1)]
    (.ok (collect [("Unknown", 1), ("Unknown", 1)])) (by decide)
  obtain rfl := Except.ok.inj hm
  have htotal := hcounts.total
  exact absurd htotal (by decide)

end Ses
