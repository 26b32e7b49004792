import Mathlib.Data.Int.Interval
import SesSender.Lib.Lists
import SesSender.Proofs.LifeCycle
import SesSender.Spec.Statistics

/-! `get_result_counts_by_topic_id` after any sequence of opens and
notifications. Each event adds one row or none, whatever came before it, and the
query counts the requests of the rows, so only the set of events matters. -/

namespace Ses

open Grouping

variable {E : Env} {db : Db} {evs evs' : List Incoming} {e : Incoming} {topicId : String}
  {requests : Table RequestRow}

/-! ## What an event leaves -/

/-- The row of `email_results` for a result, unless its request is missing. -/
def EmailResult.row (E : Env) (now : Instant) (requests : Table RequestRow) (r : EmailResult) :
    Option ResultRow :=
  if E.foreignKeys && (requests.get? r.requestId.toInt).isNone then none
  else some { requestId := r.requestId.toInt, status := r.status, raw := r.raw
              createdAt := now.stamp }

theorem EmailResult.save_bind (E : Env) (now : Instant) (requests : Table RequestRow)
    (r : EmailResult) (t : Table ResultRow) :
    r.save E now requests t = (r.row E now requests).bind fun row => t.insert? [row] := by
  unfold EmailResult.save EmailResult.row
  split <;> rfl

/-- The row an event asks for, as long as there are rowids. -/
def Incoming.row (E : Env) (requests : Table RequestRow) : Incoming → Option ResultRow
  | .opened now insertFails query =>
    if insertFails then none else (openResult query).bind fun r => r.row E now requests
  | .notified now lookupFails insertFails message =>
    if insertFails then none
    else (notificationResult E lookupFails requests message).toOption.bind fun r =>
      r.row E now requests

theorem Incoming.apply_eq (E : Env) (db : Db) (e : Incoming) :
    e.apply E db = ((e.row E db.requests).bind fun row => db.results.insert? [row]).elim db
      fun results => { db with results } := by
  cases e with
  | opened now insertFails query =>
    simp only [apply, row, trackOpen]
    cases openResult query with
    | none => cases insertFails <;> rfl
    | some r =>
      cases insertFails with
      | true => rfl
      | false =>
        simp only [Bool.false_eq_true, if_false, Option.bind_some, EmailResult.save_bind]
        cases (r.row E now db.requests).bind fun row => db.results.insert? [row] <;> rfl
  | notified now lookupFails insertFails message =>
    simp only [apply, row, processSesNotification]
    cases notificationResult E lookupFails db.requests message with
    | error err => cases insertFails <;> rfl
    | ok r =>
      cases insertFails with
      | true => rfl
      | false =>
        simp only [Bool.false_eq_true, if_false, Except.toOption, Option.bind_some,
          EmailResult.save_bind]
        cases (r.row E now db.requests).bind fun row => db.results.insert? [row] <;> rfl

/-- An event adds its row or nothing. -/
theorem Incoming.apply_cases (E : Env) (db : Db) (e : Incoming) :
    (∃ row, e.row E db.requests = some row ∧ db.results.seq + 1 ≤ maxRowid ∧
      e.apply E db = { db with results := db.results.append [row] }) ∨
    ((e.row E db.requests = none ∨ maxRowid < db.results.seq + 1) ∧ e.apply E db = db) := by
  rw [apply_eq]
  cases hrow : e.row E db.requests with
  | none => exact Or.inr ⟨Or.inl rfl, rfl⟩
  | some row =>
    by_cases hfit : db.results.seq + 1 ≤ maxRowid
    · have hins : db.results.insert? [row] = some (db.results.append [row]) := if_pos hfit
      exact Or.inl ⟨row, rfl, hfit, by rw [Option.bind_some, hins]; rfl⟩
    · have hins : db.results.insert? [row] = none := if_neg hfit
      exact Or.inr ⟨Or.inr (by omega), by rw [Option.bind_some, hins]; rfl⟩

@[simp] theorem Incoming.requests_apply (E : Env) (db : Db) (e : Incoming) :
    (e.apply E db).requests = db.requests := by
  rcases e.apply_cases E db with ⟨row, -, -, h⟩ | ⟨-, h⟩ <;> rw [h]

@[simp] theorem Incoming.requests_run (E : Env) (db : Db) (evs : List Incoming) :
    (Incoming.run E db evs).requests = db.requests := by
  induction evs generalizing db with
  | nil => rfl
  | cons e evs ih => exact (ih (e.apply E db)).trans (requests_apply E db e)

/-! ## What a sequence records -/

/-- Some event of the sequence, when its turn comes, adds this row. -/
def EventRecorded (E : Env) (db : Db) (evs : List Incoming) (row : ResultRow) : Prop :=
  ∃ pre e post, evs = pre ++ e :: post ∧
    (e.apply E (Incoming.run E db pre)).results = (Incoming.run E db pre).results.append [row]

theorem eventRecorded_nil {row : ResultRow} : ¬ EventRecorded E db [] row := by
  rintro ⟨pre, e, post, h, -⟩
  simp at h

theorem eventRecorded_cons {row : ResultRow} : EventRecorded E db (e :: evs) row ↔
    (e.apply E db).results = db.results.append [row] ∨ EventRecorded E (e.apply E db) evs row := by
  refine ⟨?_, ?_⟩
  · rintro ⟨pre, e', post, h, hadd⟩
    rw [List.cons_eq_append_iff] at h
    rcases h with ⟨rfl, h⟩ | ⟨pre, rfl, rfl⟩
    · obtain ⟨rfl, rfl⟩ := List.cons.inj h
      exact Or.inl hadd
    · exact Or.inr ⟨pre, e', post, rfl, hadd⟩
  · rintro (hadd | ⟨pre, e', post, rfl, hadd⟩)
    · exact ⟨[], e, evs, rfl, hadd⟩
    · exact ⟨e :: pre, e', post, rfl, hadd⟩

def resultRows (db : Db) : List ResultRow := db.results.rows.map Prod.snd

theorem mem_resultRows_append {t : Table ResultRow} {row row' : ResultRow} :
    row ∈ (t.append [row']).rows.map Prod.snd ↔ row ∈ t.rows.map Prod.snd ∨ row = row' := by
  simp [Table.append]

theorem append_inj {t : Table ResultRow} {row row' : ResultRow}
    (h : t.append [row] = t.append [row']) : row = row' := by
  have hrows := congrArg (fun t => t.rows.map Prod.snd) h
  simpa [Table.append] using hrows

/-- The results are the old ones and the recorded ones. -/
theorem mem_resultRows_run {row : ResultRow} : row ∈ resultRows (Incoming.run E db evs) ↔
    row ∈ resultRows db ∨ EventRecorded E db evs row := by
  induction evs generalizing db with
  | nil => simp [Incoming.run, eventRecorded_nil]
  | cons e evs ih =>
    have hrun : Incoming.run E db (e :: evs) = Incoming.run E (e.apply E db) evs := rfl
    rw [hrun, ih, eventRecorded_cons, ← or_assoc]
    refine or_congr_left ?_
    rcases e.apply_cases E db with ⟨row', -, -, h⟩ | ⟨-, h⟩
    · rw [h, resultRows, mem_resultRows_append]
      refine or_congr_right ⟨fun heq => by rw [heq], fun heq => append_inj heq.symm⟩
    · rw [h]
      refine ⟨Or.inl, fun hor => hor.elim id fun hadd => ?_⟩
      have hseq := congrArg Table.seq hadd
      simp at hseq

/-- As long as there are rowids, an event is recorded whatever came before it. -/
theorem eventRecorded_iff {row : ResultRow} (hfits : db.results.seq + evs.length ≤ maxRowid) :
    EventRecorded E db evs row ↔ ∃ e ∈ evs, e.row E db.requests = some row := by
  induction evs generalizing db with
  | nil => simp [eventRecorded_nil]
  | cons e evs ih =>
    rw [List.length_cons] at hfits
    have hseq : (e.apply E db).results.seq + evs.length ≤ maxRowid := by
      rcases e.apply_cases E db with ⟨row', -, -, h⟩ | ⟨-, h⟩
      · rw [h, Table.seq_append, List.length_singleton]; omega
      · rw [h]; omega
    rw [eventRecorded_cons, ih hseq, Incoming.requests_apply, List.exists_mem_cons_iff]
    refine or_congr_left ?_
    rcases e.apply_cases E db with ⟨row', hrow, -, h⟩ | ⟨hno, h⟩
    · rw [h, hrow, Option.some.injEq]
      exact ⟨append_inj, fun heq => by rw [heq]⟩
    · have hnone : e.row E db.requests = none := hno.resolve_right (by omega)
      rw [h, hnone]
      refine ⟨fun hadd => ?_, fun h => by cases h⟩
      have hseq := congrArg Table.seq hadd
      simp at hseq

/-! ## The query -/

theorem mem_topicResults {row : ResultRow} : row ∈ topicResults topicId db ↔
    row ∈ resultRows db ∧ ∃ req, db.requests.get? row.requestId = some req ∧
      req.topicId = topicId := by
  rw [topicResults, List.mem_filter, Option.any_eq_true]
  simp only [decide_eq_true_eq, resultRows]

/-- The requests of the topic with a result of the status. -/
def idsWith (topicId : String) (db : Db) (status : String) : Set Int :=
  {id | ∃ row ∈ resultRows db, row.requestId = id ∧ row.status = status ∧
    ∃ req, db.requests.get? id = some req ∧ req.topicId = topicId}

theorem idsWith_eq (topicId : String) (db : Db) (status : String) :
    idsWith topicId db status = {id | ∃ row ∈ (topicResults topicId db).filter
      (fun r => r.status = status), row.requestId = id} := by
  ext id
  simp only [idsWith, Set.mem_ofPred_eq, List.mem_filter, mem_topicResults, decide_eq_true_eq]
  refine ⟨?_, ?_⟩
  · rintro ⟨row, hrow, rfl, hst, hreq⟩; exact ⟨row, ⟨⟨hrow, hreq⟩, hst⟩, rfl⟩
  · rintro ⟨row, ⟨⟨hrow, hreq⟩, hst⟩, rfl⟩; exact ⟨row, hrow, rfl, hst, hreq⟩

theorem mem_resultGroups {status : String} {n : Int} : (status, n) ∈ resultGroups topicId db ↔
    (∃ r ∈ topicResults topicId db, r.status = status) ∧ n = (idsWith topicId db status).ncard := by
  simp only [resultGroups, List.mem_map, Prod.mk.injEq, idsWith_eq, ← length_dedup_map]
  refine ⟨?_, ?_⟩
  · rintro ⟨⟨status, g⟩, hg, rfl, rfl⟩
    obtain ⟨hr, rfl⟩ := mem_groupBy.1 hg
    exact ⟨hr, rfl⟩
  · rintro ⟨hr, rfl⟩
    exact ⟨_, mem_groupBy.2 ⟨hr, rfl⟩, rfl, rfl⟩

theorem idsWith_subset (topicId : String) (db : Db) (status : String) :
    idsWith topicId db status ⊆ ((topicRows topicId db.requests).map Prod.fst).toFinset := by
  rintro id ⟨row, -, -, -, req, hreq, htopic⟩
  simp only [List.coe_toFinset, List.mem_map, Set.mem_ofPred_eq, topicRows, List.mem_filter]
  exact ⟨(id, req), ⟨Table.get?_eq_some.1 hreq, by simp [htopic]⟩, rfl⟩

theorem ncard_idsWith_le (topicId : String) (db : Db) (status : String) :
    (idsWith topicId db status).ncard ≤ (topicRows topicId db.requests).length := by
  calc (idsWith topicId db status).ncard
      ≤ (((topicRows topicId db.requests).map Prod.fst).toFinset : Set Int).ncard :=
        Set.ncard_le_ncard (idsWith_subset topicId db status) (Finset.finite_toSet _)
    _ ≤ (topicRows topicId db.requests).length := by
        rw [Set.ncard_coe_finset]
        exact (List.toFinset_card_le _).trans_eq (List.length_map _)

theorem ncard_idsWith_pos {status : String} :
    (idsWith topicId db status).ncard ≠ 0 ↔ ∃ r ∈ topicResults topicId db, r.status = status := by
  have hfin := (Finset.finite_toSet _).subset (idsWith_subset topicId db status)
  rw [Ne, Set.ncard_eq_zero hfin, ← Ne, ← Set.nonempty_iff_ne_empty, idsWith_eq]
  refine ⟨?_, ?_⟩
  · rintro ⟨_, row, hrow, rfl⟩
    rw [List.mem_filter] at hrow
    exact ⟨row, hrow.1, of_decide_eq_true hrow.2⟩
  · rintro ⟨row, hrow, rfl⟩
    exact ⟨_, row, List.mem_filter.2 ⟨hrow, by simp⟩, rfl⟩

/-- Results are written for `i32` ids, and rowids are positive. -/
def ResultIdsFit (db : Db) : Prop := ∀ row ∈ resultRows db, ∃ id : Int32, row.requestId = id.toInt

theorem ResultIdsFit.ncard_le (h : ResultIdsFit db) (topicId status : String) :
    ((idsWith topicId db status).ncard : Int) ≤ i32Max := by
  have hsub : idsWith topicId db status ⊆ (Finset.Icc 1 i32Max : Finset Int) := by
    rintro id ⟨row, hrow, rfl, -, req, hreq, -⟩
    have hpos := Table.pos_of_get? hreq
    obtain ⟨x, hx⟩ := h row hrow
    have hlt := x.toInt_lt
    simp only [Finset.coe_Icc, Set.mem_Icc, i32Max]
    omega
  have hle := Set.ncard_le_ncard hsub (Finset.finite_toSet _)
  rw [Set.ncard_coe_finset, Int.card_Icc] at hle
  unfold i32Max at hle ⊢
  omega

/-- The map lists each status that some request of the topic has, with the
number of these requests. -/
def CountsRequests (topicId : String) (db : Db) (m : Counts) : Prop :=
  ∀ status, (m.lookup status).map Int32.toInt =
    if (idsWith topicId db status).ncard = 0 then none
    else some ((idsWith topicId db status).ncard : Int)

theorem CountsRequests.unique {m m' : Counts} (h : CountsRequests topicId db m)
    (h' : CountsRequests topicId db m') : m = m' := by
  refine Finmap.ext_lookup fun status => ?_
  have heq := (h status).trans (h' status).symm
  exact Option.map_injective (fun _ _ => Int32.toInt_inj.1) heq

/-- The fetched rows are the groups the query gave. -/
theorem groups_of_fetched {groups : List (String × Int)} {rows : List (String × Int32)}
    (h : groups.mapM (fun g => (decodeI32 g.2).map fun count => (g.1, count)) = some rows) :
    groups = rows.map fun r => (r.1, r.2.toInt) := by
  have heq := Lists.forall₂_map_eq (Lists.mapM_eq_some.1 h) (f := id)
    (g := fun r => (r.1, r.2.toInt)) fun g r hr => by
      obtain ⟨c, hc, rfl⟩ := Option.map_eq_some_iff.1 hr
      rw [decodeI32_eq_some hc]
      rfl
  rwa [List.map_id] at heq

theorem ResultIdsFit.fetched (h : ResultIdsFit db) {groups : List (String × Int)}
    (hgroups : groups.Perm (resultGroups topicId db)) :
    ∃ rows, groups.mapM (fun g => (decodeI32 g.2).map fun count => (g.1, count)) = some rows := by
  apply Lists.mapM_isSome
  rintro ⟨status, n⟩ hg
  obtain ⟨-, rfl⟩ := mem_resultGroups.1 (hgroups.mem_iff.1 hg)
  refine ⟨(status, asI32 (idsWith topicId db status).ncard), ?_⟩
  rw [decodeI32_of_fit (by omega) (h.ncard_le topicId status)]
  rfl

/-- Whatever the order of the groups, the call counts the requests. -/
theorem ResultIdsFit.counts (h : ResultIdsFit db) {groups : List (String × Int)}
    {result : Except SqlxError Counts}
    (call : EmailResult.getResultCountsByTopicId groups topicId db = some result) :
    ∃ m, result = .ok m ∧ CountsRequests topicId db m := by
  unfold EmailResult.getResultCountsByTopicId at call
  split at call
  · cases call
  rename_i hperm
  have hgroups : groups.Perm (resultGroups topicId db) := List.isPerm_iff.1 (not_not.1 hperm)
  obtain rfl := Option.some.inj call
  obtain ⟨rows, hrows⟩ := h.fetched hgroups
  have hwiden := groups_of_fetched hrows
  rw [hrows]
  refine ⟨collect rows, rfl, fun status => ?_⟩
  have hmem : ∀ c : Int32, (status, c) ∈ rows →
      c.toInt = (idsWith topicId db status).ncard ∧ (idsWith topicId db status).ncard ≠ 0 := by
    intro c hc
    have hg : (status, c.toInt) ∈ groups := hwiden ▸ List.mem_map_of_mem hc
    obtain ⟨hex, hn⟩ := mem_resultGroups.1 (hgroups.mem_iff.1 hg)
    exact ⟨hn, ncard_idsWith_pos.2 hex⟩
  cases hl : (collect rows).lookup status with
  | some c =>
    obtain ⟨hc, hne⟩ := hmem c (mem_of_lookup_collect hl)
    rw [if_neg hne, ← hc]
    rfl
  | none =>
    have hzero : (idsWith topicId db status).ncard = 0 := by
      by_contra hne
      have hg := hgroups.mem_iff.2 (mem_resultGroups.2 ⟨ncard_idsWith_pos.1 hne, rfl⟩)
      rw [hwiden] at hg
      obtain ⟨r, hr, heq⟩ := List.mem_map.1 hg
      exact lookup_collect_eq_none.1 hl (List.mem_map.2 ⟨r, hr, (Prod.mk.inj heq).1⟩)
    rw [if_pos hzero]
    rfl

/-! ## Sequences compared -/

theorem Incoming.row_requestId {row : ResultRow} (h : e.row E requests = some row) :
    ∃ id : Int32, row.requestId = id.toInt := by
  have hrow : ∀ {now : Instant} {r : EmailResult}, r.row E now requests = some row →
      row.requestId = r.requestId.toInt := by
    intro now r h
    unfold EmailResult.row at h
    split at h
    · cases h
    · obtain rfl := Option.some.inj h; rfl
  cases e with
  | opened now insertFails query =>
    simp only [Incoming.row] at h
    split at h
    · cases h
    · obtain ⟨r, -, hr⟩ := Option.bind_eq_some_iff.1 h
      exact ⟨_, hrow hr⟩
  | notified now lookupFails insertFails message =>
    simp only [Incoming.row] at h
    split at h
    · cases h
    · obtain ⟨r, -, hr⟩ := Option.bind_eq_some_iff.1 h
      exact ⟨_, hrow hr⟩

theorem EventRecorded.exists_row {row : ResultRow} (h : EventRecorded E db evs row) :
    ∃ e ∈ evs, e.row E db.requests = some row := by
  obtain ⟨pre, e, post, rfl, hadd⟩ := h
  refine ⟨e, by simp, ?_⟩
  rcases e.apply_cases E (Incoming.run E db pre) with ⟨row', hrow, -, h⟩ | ⟨-, h⟩
  · rw [h] at hadd
    rwa [Incoming.requests_run, append_inj hadd] at hrow
  · rw [h] at hadd
    have hseq := congrArg Table.seq hadd
    simp at hseq

/-- The requests of the topic that got at least one recorded event of the status. -/
def recordedIds (E : Env) (contents : Table ContentRow) (requests : Table RequestRow)
    (evs : List Incoming) (topicId status : String) : Set Int :=
  {id | (∃ req, requests.get? id = some req ∧ req.topicId = topicId) ∧
    ∃ row, EventRecorded E ⟨contents, requests, Table.empty⟩ evs row ∧ row.requestId = id ∧
      row.status = status}

theorem idsWith_run (E : Env) (contents : Table ContentRow) (requests : Table RequestRow)
    (evs : List Incoming) (topicId status : String) :
    idsWith topicId (Incoming.run E ⟨contents, requests, Table.empty⟩ evs) status =
      recordedIds E contents requests evs topicId status := by
  ext id
  simp only [idsWith, recordedIds, Set.mem_ofPred_eq, mem_resultRows_run, Incoming.requests_run]
  refine ⟨?_, ?_⟩
  · rintro ⟨row, hold | hrec, hid, hst, hreq⟩
    · cases hold
    · exact ⟨hreq, row, hrec, hid, hst⟩
  · rintro ⟨hreq, row, hrec, hid, hst⟩
    exact ⟨row, Or.inr hrec, hid, hst, hreq⟩

theorem resultIdsFit_run (E : Env) (contents : Table ContentRow) (requests : Table RequestRow)
    (evs : List Incoming) :
    ResultIdsFit (Incoming.run E ⟨contents, requests, Table.empty⟩ evs) := by
  intro row hrow
  rcases mem_resultRows_run.1 hrow with hold | hrec
  · cases hold
  · obtain ⟨e, -, he⟩ := hrec.exists_row
    exact Incoming.row_requestId he

/-- The event is one for a request of the topic. -/
def Incoming.Concerns (E : Env) (requests : Table RequestRow) (topicId : String) (e : Incoming) :
    Prop :=
  ∃ row req, e.row E requests = some row ∧ requests.get? row.requestId = some req ∧
    req.topicId = topicId

/-- The sequences differ by a permutation, by repeated events and by events
that are not for the topic. -/
inductive Rearranged (E : Env) (requests : Table RequestRow) (topicId : String) :
    List Incoming → List Incoming → Prop where
  | perm {xs ys : List Incoming} (h : xs.Perm ys) : Rearranged E requests topicId xs ys
  | again {x : Incoming} {xs : List Incoming} (h : x ∈ xs) :
      Rearranged E requests topicId xs (x :: xs)
  | other {x : Incoming} {xs : List Incoming} (h : ¬ x.Concerns E requests topicId) :
      Rearranged E requests topicId xs (x :: xs)
  | symm {xs ys : List Incoming} (h : Rearranged E requests topicId xs ys) :
      Rearranged E requests topicId ys xs
  | trans {xs ys zs : List Incoming} (h : Rearranged E requests topicId xs ys)
      (h' : Rearranged E requests topicId ys zs) : Rearranged E requests topicId xs zs

theorem Rearranged.mem_iff (h : Rearranged E requests topicId evs evs')
    (he : e.Concerns E requests topicId) : e ∈ evs ↔ e ∈ evs' := by
  induction h with
  | perm h => exact h.mem_iff
  | again h =>
    rw [List.mem_cons]
    exact ⟨Or.inr, fun hor => hor.elim (fun heq => heq ▸ h) id⟩
  | other h =>
    rw [List.mem_cons]
    exact ⟨Or.inr, fun hor => hor.elim (fun heq => absurd (heq ▸ he) h) id⟩
  | symm _ ih => exact ih.symm
  | trans _ _ ih ih' => exact ih.trans ih'

/-- No more events than there are rowids. -/
def FitsRowids (evs : List Incoming) : Prop := (evs.length : Int) ≤ maxRowid

instance (evs : List Incoming) : Decidable (FitsRowids evs) := inferInstanceAs (Decidable (_ ≤ _))

theorem mem_recordedIds {contents : Table ContentRow} (hfits : FitsRowids evs) {status : String}
    {id : Int} : id ∈ recordedIds E contents requests evs topicId status ↔
      ∃ e ∈ evs, e.Concerns E requests topicId ∧ ∃ row, e.row E requests = some row ∧
        row.requestId = id ∧ row.status = status := by
  have hroom : (⟨contents, requests, Table.empty⟩ : Db).results.seq + evs.length ≤ maxRowid := by
    change 0 + _ ≤ _
    rw [Int.zero_add]
    exact hfits
  simp only [recordedIds, Set.mem_ofPred_eq, eventRecorded_iff hroom]
  refine ⟨?_, ?_⟩
  · rintro ⟨⟨req, hreq, htopic⟩, row, ⟨e, he, hrow⟩, rfl, hst⟩
    exact ⟨e, he, ⟨row, req, hrow, hreq, htopic⟩, row, hrow, rfl, hst⟩
  · rintro ⟨e, he, ⟨row', req, hrow', hreq, htopic⟩, row, hrow, rfl, hst⟩
    obtain rfl := Option.some.inj (hrow'.symm.trans hrow)
    exact ⟨⟨req, hreq, htopic⟩, row', ⟨e, he, hrow⟩, rfl, hst⟩

theorem Rearranged.recordedIds_eq (h : Rearranged E requests topicId evs evs')
    (hfits : FitsRowids evs) (hfits' : FitsRowids evs') (contents : Table ContentRow)
    (status : String) : recordedIds E contents requests evs topicId status =
      recordedIds E contents requests evs' topicId status := by
  ext id
  rw [mem_recordedIds hfits, mem_recordedIds hfits']
  refine ⟨?_, ?_⟩
  · rintro ⟨e, he, hc, hrow⟩; exact ⟨e, (h.mem_iff hc).1 he, hc, hrow⟩
  · rintro ⟨e, he, hc, hrow⟩; exact ⟨e, (h.mem_iff hc).2 he, hc, hrow⟩

/-! ## The statistics -/

/-- What the call may return after the sequence. -/
def Reported (E : Env) (contents : Table ContentRow) (requests : Table RequestRow)
    (evs : List Incoming) (topicId : String) (result : Except SqlxError Counts) : Prop :=
  ∃ groups, EmailResult.getResultCountsByTopicId groups topicId
    (Incoming.run E ⟨contents, requests, Table.empty⟩ evs) = some result

theorem exists_reported (E : Env) (contents : Table ContentRow) (requests : Table RequestRow)
    (evs : List Incoming) (topicId : String) :
    ∃ result, Reported E contents requests evs topicId result := by
  have hself : ∀ groups : List (String × Int), groups.isPerm groups = true :=
    fun groups => List.isPerm_iff.2 (List.Perm.refl groups)
  exact ⟨_, resultGroups topicId (Incoming.run E ⟨contents, requests, Table.empty⟩ evs),
    if_neg (not_not.2 (hself _))⟩

theorem Reported.counts {contents : Table ContentRow} {result : Except SqlxError Counts}
    (h : Reported E contents requests evs topicId result) : ∃ m, result = .ok m ∧
      CountsRequests topicId (Incoming.run E ⟨contents, requests, Table.empty⟩ evs) m := by
  obtain ⟨groups, call⟩ := h
  exact (resultIdsFit_run E contents requests evs).counts call

theorem Rearranged.reported {contents : Table ContentRow} {result : Except SqlxError Counts}
    (h : Rearranged E requests topicId evs evs') (hfits : FitsRowids evs)
    (hfits' : FitsRowids evs') (hrep : Reported E contents requests evs topicId result) :
    Reported E contents requests evs' topicId result := by
  obtain ⟨result', hrep'⟩ := exists_reported E contents requests evs' topicId
  obtain ⟨m, rfl, hm⟩ := hrep.counts
  obtain ⟨m', rfl, hm'⟩ := hrep'.counts
  have hsame : CountsRequests topicId (Incoming.run E ⟨contents, requests, Table.empty⟩ evs') m := by
    intro status
    rw [hm status, idsWith_run, idsWith_run, h.recordedIds_eq hfits hfits']
  rwa [hsame.unique hm']

/-- The statistics of a topic count every request once for each status it got,
and only the events of the topic matter, as a set. -/
theorem result_statistics (E : Env) (contents : Table ContentRow) (requests : Table RequestRow)
    (evs : List Incoming) (topicId : String) :
    (∃ m, Reported E contents requests evs topicId (.ok m)) ∧
    (∀ result, Reported E contents requests evs topicId result → ∃ m, result = .ok m ∧
      ∀ status, ((m.lookup status).map Int32.toInt =
        if (recordedIds E contents requests evs topicId status).ncard = 0 then none
        else some ((recordedIds E contents requests evs topicId status).ncard : Int)) ∧
      (recordedIds E contents requests evs topicId status).ncard ≤
        (topicRows topicId requests).length) ∧
    ∀ evs', FitsRowids evs → FitsRowids evs' → Rearranged E requests topicId evs evs' →
      ∀ result, Reported E contents requests evs topicId result ↔
        Reported E contents requests evs' topicId result := by
  refine ⟨?_, fun result hrep => ?_, fun evs' hfits hfits' h result => ?_⟩
  · obtain ⟨result, hrep⟩ := exists_reported E contents requests evs topicId
    obtain ⟨m, rfl, -⟩ := hrep.counts
    exact ⟨m, hrep⟩
  · obtain ⟨m, rfl, hm⟩ := hrep.counts
    refine ⟨m, rfl, fun status => ?_⟩
    have hle := ncard_idsWith_le topicId
      (Incoming.run E ⟨contents, requests, Table.empty⟩ evs) status
    have hcount := hm status
    rw [idsWith_run] at hle hcount
    rw [Incoming.requests_run] at hle
    exact ⟨hcount, hle⟩
  · exact ⟨h.reported hfits hfits', h.symm.reported hfits' hfits⟩

def oneRequest : Table RequestRow :=
  Table.empty.append [{ topicId := "news", contentId := 1, messageId := none
                        email := "a@example.com", scheduledAt := "", status := 2, error := none
                        createdAt := "", updatedAt := "" }]

def openOf (id : String) : Incoming := .opened newYear false ⟨some id⟩

/-- One open, or the same open twice and a malformed one. -/
theorem result_statistics_opens (result : Except SqlxError Counts) :
    Reported sampleEnv Table.empty oneRequest [openOf "1"] "news" result ↔
      Reported sampleEnv Table.empty oneRequest [openOf "x", openOf "1", openOf "1"] "news"
        result := by
  refine (result_statistics sampleEnv Table.empty oneRequest [openOf "1"] "news").2.2 _ (by decide)
    (by decide) (.trans (.again (by simp)) (.other ?_)) result
  rintro ⟨row, req, hrow, -⟩
  have hnone : (openOf "x").row sampleEnv oneRequest = none := by decide
  rw [hnone] at hrow
  cases hrow

end Ses
