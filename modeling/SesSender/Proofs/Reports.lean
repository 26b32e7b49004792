import SesSender.Proofs.Attribution
import SesSender.Proofs.Queries

/-! The figures the API reports, down to the texts of their queries. -/

namespace Ses

open Calendar Grouping Sql

variable {db : Db} {now : Instant} {t : Table RequestRow} {rows : List (List SqlValue)}

/-! ## Mails sent -/

theorem readHours_nat (n : ℕ) : readHours ("-" ++ toString n ++ " hours") = some n := by
  have hlist : ("-" ++ toString n ++ " hours").toList =
      '-' :: (Nat.toDigits 10 n ++ " hours".toList) := by
    rw [String.toList_append, String.toList_append]
    exact congrArg (fun ds => '-' :: (ds ++ " hours".toList)) Nat.toList_repr
  have hdigit : ∀ c ∈ Nat.toDigits 10 n, c.isDigit = true :=
    fun c hc => Nat.isDigit_of_mem_toDigits (by decide) (by decide) hc
  have hvalue : digitsValue (Nat.toDigits 10 n) = n := by
    rw [digitsValue, ← Nat.ofDigitChars_eq_foldl]
    exact Nat.ofDigitChars_ten_toDigits
  have htake : (Nat.toDigits 10 n ++ " hours".toList).takeWhile Char.isDigit =
      Nat.toDigits 10 n := by
    rw [List.takeWhile_append_of_pos hdigit]
    exact List.append_nil _
  have hdrop : (Nat.toDigits 10 n ++ " hours".toList).dropWhile Char.isDigit = " hours".toList := by
    rw [List.dropWhile_append_of_pos hdigit]
    rfl
  rw [readHours, hlist]
  simp only [htake, hdrop, hvalue]
  exact if_pos ⟨Nat.toDigits_ne_nil, trivial⟩

theorem readHours_minus (s : String) : readHours ("-" ++ ("-" ++ s) ++ " hours") = none := by
  have hlist : ("-" ++ ("-" ++ s) ++ " hours").toList =
      '-' :: '-' :: (s.toList ++ " hours".toList) := by
    rw [String.toList_append, String.toList_append, String.toList_append]
    rfl
  rw [readHours, hlist]
  rfl

/-- The start of the window, from the modifier that is bound. -/
theorem shiftedNow_hours (now : Instant) (hours : Int32) :
    shiftedNow now (.text ("-" ++ toString hours.toInt ++ " hours")) =
      .ofText (windowStart now hours) := by
  unfold windowStart
  cases hours.toInt with
  | ofNat n =>
    rw [shiftedNow]
    have hread : readHours ("-" ++ toString (Int.ofNat n) ++ " hours") = some n := readHours_nat n
    have hnonneg : ¬ Int.ofNat n < 0 := Int.not_lt.2 (Int.natCast_nonneg n)
    rw [hread, if_neg hnonneg]
    rfl
  | negSucc n =>
    rw [shiftedNow]
    have hread : readHours ("-" ++ toString (Int.negSucc n) ++ " hours") = none :=
      readHours_minus _
    rw [hread, if_pos (Int.negSucc_lt_zero n)]
    rfl

theorem SqlValue.le_ofText (x : Option String) (s : String) :
    SqlValue.le (.ofText x) (.text s) = x.any fun start => start ≤ s := by
  cases x <;> rfl

/-- Sent since the window's start. -/
def inWindow (now : Instant) (hours : Int32) (row : RequestRow) : Bool :=
  row.status = EmailMessageStatus.sent.asI32 ∧
    (windowStart now hours).any fun start => start ≤ row.createdAt

theorem holdsAll_inWindow (hours : Int32) (id : Int) (row : RequestRow) :
    holdsAll (sqlValues now) (boundTo (EmailRequest.sentCountBinds hours))
      [("email_requests", requestColumns)] [row.column id]
      EmailRequest.sentCountStatement.conditions = inWindow now hours row := by
  have hboth : holdsAll (sqlValues now) (boundTo (EmailRequest.sentCountBinds hours))
      [("email_requests", requestColumns)] [row.column id]
      EmailRequest.sentCountStatement.conditions =
      (decide (row.status = EmailMessageStatus.sent.asI32) &&
        (SqlValue.le (shiftedNow now (.text ("-" ++ toString hours.toInt ++ " hours")))
          (.text row.createdAt) && true)) := rfl
  rw [hboth, shiftedNow_hours, SqlValue.le_ofText, Bool.and_true, inWindow, Bool.decide_and,
    Bool.decide_eq_true]

theorem selects_sentCount (hours : Int32) :
    db.Selects now EmailRequest.sentCountSql (EmailRequest.sentCountBinds hours) rows ↔
      rows = [[.int (db.requests.rows.filter fun r => inWindow now hours r.2).length]] := by
  have hgroups : EmailRequest.sentCountStatement.groups (sqlValues now)
      (boundTo (EmailRequest.sentCountBinds hours)) (requestProduct db.requests) =
      [db.requests.rows.filter fun r => inWindow now hours r.2].map fun g =>
        g.map fun r => [r.2.column r.1] :=
    Select.groups_all rfl rfl (filter_requestProduct (holdsAll_inWindow hours) db.requests)
  have hout : ∀ g : List (Int × RequestRow), EmailRequest.sentCountStatement.output (sqlValues now)
      (boundTo (EmailRequest.sentCountBinds hours)) (requestProduct db.requests)
      (g.map fun r => [r.2.column r.1]) = some [.int g.length] := by
    intro g
    rw [← List.length_map fun r : Int × RequestRow => [r.2.column r.1]]
    rfl
  rw [selects_iff EmailRequest.parse_sentCountSql, Select.yields_perm_iff _ _ _ rfl rfl
    (product_requests rfl rfl db) rfl hgroups fun g _ => hout g]
  simp only [List.perm_singleton, exists_eq_left, List.map_cons, List.map_nil]

theorem fetchOne_sentCount (hours : Int32) (answer : Except SqlxError Int32) :
    (∃ rows, db.Selects now EmailRequest.sentCountSql (EmailRequest.sentCountBinds hours) rows ∧
      fetchOne rows = answer) ↔ answer = EmailRequest.sentCount now hours db.requests := by
  simp only [selects_sentCount, exists_eq_left]
  exact eq_comm

/-! ## The request of a message id -/

theorem selects_id (messageId : String) :
    db.Selects now EmailRequest.idSql [.text messageId] rows ↔ ∃ kept : List (Int × RequestRow),
      kept.Perm (db.requests.rows.filter fun r => r.2.messageId = some messageId) ∧
        rows = kept.map fun r => [.int r.1] := by
  have hholds : ∀ (id : Int) (row : RequestRow), holdsAll (sqlValues now)
      (boundTo [.text messageId]) [("email_requests", requestColumns)] [row.column id]
      EmailRequest.idStatement.conditions = decide (row.messageId = some messageId) := by
    intro id row
    have hone : holdsAll (sqlValues now) (boundTo [.text messageId])
        [("email_requests", requestColumns)] [row.column id]
        EmailRequest.idStatement.conditions =
        (SqlValue.eq (.ofText row.messageId) (.text messageId) && true) := rfl
    rw [hone, Bool.and_true]
    cases row.messageId with
    | none => rfl
    | some m => exact decide_eq_decide.2 (Option.some.injEq m messageId ▸ Iff.rfl)
  have hgroups : EmailRequest.idStatement.groups (sqlValues now) (boundTo [.text messageId])
      (requestProduct db.requests) =
      (db.requests.rows.filter fun r => r.2.messageId = some messageId).map fun r =>
        [[r.2.column r.1]] :=
    Select.groups_rows rfl rfl (filter_requestProduct hholds db.requests)
  have hout : ∀ r : Int × RequestRow, EmailRequest.idStatement.output (sqlValues now)
      (boundTo [.text messageId]) (requestProduct db.requests) [[r.2.column r.1]] =
        some [.int r.1] := fun _ => rfl
  rw [selects_iff EmailRequest.parse_idSql]
  exact Select.yields_perm_iff _ _ _ rfl rfl (product_requests rfl rfl db) rfl hgroups
    fun r _ => hout r

theorem getRequestIdByMessageId_eq (messageId : String) (t : Table RequestRow) :
    EmailRequest.getRequestIdByMessageId messageId t =
      fetchOne ((t.rows.filter fun r => r.2.messageId = some messageId).map fun r =>
        [.int r.1]) := by
  rw [EmailRequest.getRequestIdByMessageId, ← List.head?_filter]
  generalize (t.rows.filter fun r => r.2.messageId = some messageId) = matching
  cases matching with
  | nil => rfl
  | cons r rs =>
    change _ = fetchI32 r.1
    rw [List.head?_cons, fetchI32]
    dsimp only
    cases decodeI32 r.1 <;> rfl

/-- Where a message id names one request, its id is answered. -/
theorem fetchOne_id {messageId : String}
    (hone : (db.requests.rows.filter fun r => r.2.messageId = some messageId).length ≤ 1)
    (answer : Except SqlxError Int32) :
    (∃ rows, db.Selects now EmailRequest.idSql [.text messageId] rows ∧ fetchOne rows = answer) ↔
      answer = EmailRequest.getRequestIdByMessageId messageId db.requests := by
  rw [getRequestIdByMessageId_eq]
  simp only [selects_id]
  generalize (db.requests.rows.filter fun r => r.2.messageId = some messageId) = matching at hone ⊢
  refine ⟨?_, ?_⟩
  · rintro ⟨rows, ⟨kept, hperm, rfl⟩, rfl⟩
    rcases matching with - | ⟨r, - | ⟨r', rs⟩⟩
    · rw [hperm.eq_nil]
    · rw [List.perm_singleton.1 hperm]
    · exact absurd hone (by simp)
  · rintro rfl
    exact ⟨_, ⟨matching, List.Perm.refl matching, rfl⟩, rfl⟩

/-! ## Statuses of a topic -/

theorem SqlValue.int_injective : Function.Injective SqlValue.int := fun _ _ h => SqlValue.int.inj h

theorem holdsAll_topic (topicId : String) (id : Int) (row : RequestRow) :
    holdsAll (sqlValues now) (boundTo [.text topicId]) [("email_requests", requestColumns)]
      [row.column id] EmailRequest.countsStatement.conditions = decide (row.topicId = topicId) :=
  Bool.and_true _

theorem groups_counts (topicId : String) (t : Table RequestRow) :
    EmailRequest.countsStatement.groups (sqlValues now) (boundTo [.text topicId])
      (requestProduct t) =
      (groupBy (fun r : Int × RequestRow => r.2.status) (topicRows topicId t)).map fun g =>
        g.2.map fun r => [r.2.column r.1] :=
  Select.groups_groupBy SqlValue.int _ SqlValue.int_injective rfl (fun _ => rfl)
    (filter_requestProduct (holdsAll_topic topicId) t)

/-- What the `SELECT` gives for a status. -/
def statusGroupValues (g : Int × Int) : List SqlValue := [.int g.1, .int g.2]

theorem output_counts {topicId : String} {g : Int × List (Int × RequestRow)}
    (hg : g ∈ groupBy (fun r : Int × RequestRow => r.2.status) (topicRows topicId t)) :
    EmailRequest.countsStatement.output (sqlValues now) (boundTo [.text topicId])
      (requestProduct t) (g.2.map fun r => [r.2.column r.1]) =
        some (statusGroupValues (g.1, g.2.length)) := by
  obtain ⟨r, rs, hrs, hstatus⟩ := exists_cons_of_mem_groupBy hg
  rw [hrs, ← hstatus, ← List.length_map fun r : Int × RequestRow => [r.2.column r.1]]
  rfl

theorem EmailRequest.isSome_getRequestCounts {groups : List (Int × Int)} {topicId : String} :
    (EmailRequest.getRequestCountsByTopicId groups topicId t).isSome = true ↔
      groups.Perm (statusGroups topicId t) := by
  rw [EmailRequest.getRequestCountsByTopicId, ← List.isPerm_iff]
  split <;> simp_all

theorem selects_counts (topicId : String) :
    db.Selects now EmailRequest.countsSql [.text topicId] rows ↔
      ∃ groups, (EmailRequest.getRequestCountsByTopicId groups topicId db.requests).isSome = true ∧
        rows = groups.map statusGroupValues := by
  simp only [EmailRequest.isSome_getRequestCounts]
  rw [selects_iff EmailRequest.parse_countsSql, Select.yields_perm_iff _ _ _ rfl rfl
    (product_requests rfl rfl db) rfl (groups_counts topicId db.requests) fun g hg =>
      output_counts hg, statusGroups]
  exact Lists.exists_perm_map_iff

/-! ## Results of a topic -/

/-- Results and requests, side by side. -/
def resultProduct (db : Db) : Product SqlValue :=
  ⟨[("r", resultColumns), ("req", requestColumns)],
    db.results.rows.flatMap fun r => db.requests.rows.map fun q => [r.2.column r.1, q.2.column q.1]⟩

theorem product_results (db : Db) :
    EmailResult.countsStatement.product db.relation = some (resultProduct db) := by
  rw [EmailResult.countsStatement.product_join db.relation rfl rfl rfl]
  simp only [List.flatMap_map, List.map_map]
  rfl

theorem holdsAll_results (topicId : String) (r : Int × ResultRow) (q : Int × RequestRow) :
    holdsAll (sqlValues now) (boundTo [.text topicId]) (resultProduct db).names
      [r.2.column r.1, q.2.column q.1] EmailResult.countsStatement.conditions =
        decide (q.2.topicId = topicId ∧ r.2.requestId = q.1) := by
  have hboth : holdsAll (sqlValues now) (boundTo [.text topicId]) (resultProduct db).names
      [r.2.column r.1, q.2.column q.1] EmailResult.countsStatement.conditions =
      (decide (r.2.requestId = q.1) && (decide (q.2.topicId = topicId) && true)) := rfl
  rw [hboth, Bool.and_true, Bool.and_comm, Bool.decide_and]

def resultPairs (topicId : String) (db : Db) : List ((Int × ResultRow) × (Int × RequestRow)) :=
  pairs db.results.rows db.requests.rows fun r q => q.2.topicId = topicId ∧ r.2.requestId = q.1

/-- The JOIN keeps a result once or not at all. -/
theorem map_resultPairs (topicId : String) (db : Db) :
    (resultPairs topicId db).map (fun x => x.1.2) = topicResults topicId db := by
  have hone : ∀ r : Int × ResultRow, ((db.requests.rows.filter fun q =>
      q.2.topicId = topicId ∧ r.2.requestId = q.1).map fun q => (r, q)).map (fun x => x.1.2) =
      if (db.requests.get? r.2.requestId).any fun req => req.topicId = topicId then [r.2]
      else [] := by
    intro r
    simp only [Bool.decide_and]
    rw [← List.filter_filter, Table.filter_id]
    cases db.requests.get? r.2.requestId with
    | none => rfl
    | some req => by_cases h : req.topicId = topicId <;> simp [h]
  rw [resultPairs, pairs, List.map_flatMap, topicResults]
  simp only [hone]
  induction db.results.rows with
  | nil => rfl
  | cons r rs ih =>
    rw [List.flatMap_cons, List.map_cons, List.filter_cons, ih]
    split <;> rfl

theorem SqlValue.text_injective : Function.Injective SqlValue.text :=
  fun _ _ h => SqlValue.text.inj h

theorem groups_results (topicId : String) (db : Db) :
    EmailResult.countsStatement.groups (sqlValues now) (boundTo [.text topicId])
      (resultProduct db) =
      (groupBy (fun x : (Int × ResultRow) × (Int × RequestRow) => x.1.2.status)
        (resultPairs topicId db)).map fun g =>
          g.2.map fun x => [x.1.2.column x.1.1, x.2.2.column x.2.1] :=
  Select.groups_groupBy SqlValue.text _ SqlValue.text_injective rfl (fun _ => rfl)
    (filter_pairs _ _ _ (fun r q => holdsAll_results topicId r q) _ _)

/-- What the `SELECT` gives for a kind of result. -/
def resultGroupValues (g : String × Int) : List SqlValue := [.text g.1, .int g.2]

theorem length_dedup_requestIds (xs : List ((Int × ResultRow) × (Int × RequestRow))) :
    (xs.map fun x => SqlValue.int x.1.2.requestId).dedup.length =
      (xs.map fun x => x.1.2.requestId).dedup.length := by
  have hmap : (xs.map fun x => SqlValue.int x.1.2.requestId) =
      (xs.map fun x => x.1.2.requestId).map SqlValue.int := List.map_map.symm
  rw [hmap, List.dedup_map_of_injective SqlValue.int_injective, List.length_map]

theorem output_results {topicId : String}
    {g : String × List ((Int × ResultRow) × (Int × RequestRow))}
    (hg : g ∈ groupBy (fun x : (Int × ResultRow) × (Int × RequestRow) => x.1.2.status)
      (resultPairs topicId db)) :
    EmailResult.countsStatement.output (sqlValues now) (boundTo [.text topicId]) (resultProduct db)
      (g.2.map fun x => [x.1.2.column x.1.1, x.2.2.column x.2.1]) =
        some (resultGroupValues (g.1, (g.2.map fun x => x.1.2.requestId).dedup.length)) := by
  obtain ⟨x, xs, hxs, hstatus⟩ := exists_cons_of_mem_groupBy hg
  have hvalue : Item.eval (sqlValues now) (boundTo [.text topicId]) (resultProduct db).names
      (g.2.map fun x => [x.1.2.column x.1.1, x.2.2.column x.2.1])
      (.value (.column "r" "status")) = some (.text g.1) := by
    rw [hxs, ← hstatus]
    rfl
  have hcolumn : ∀ x : (Int × ResultRow) × (Int × RequestRow),
      (Operand.column "r" "request_id").eval (sqlValues now) (boundTo [.text topicId])
      (resultProduct db).names [x.1.2.column x.1.1, x.2.2.column x.2.1] = some (.int x.1.2.requestId) := fun _ => rfl
  have hcount : Item.eval (sqlValues now) (boundTo [.text topicId]) (resultProduct db).names
      (g.2.map fun x => [x.1.2.column x.1.1, x.2.2.column x.2.1])
      (.countDistinct (.column "r" "request_id")) =
        some (.int (g.2.map fun x => x.1.2.requestId).dedup.length) := by
    rw [Item.eval_countDistinct _ _ _ hcolumn (fun _ => decide_eq_true rfl),
      length_dedup_requestIds]
    rfl
  change [Item.value (.column "r" "status"), .countDistinct (.column "r" "request_id")].mapM _ = _
  simp only [List.mapM_cons, List.mapM_nil, hvalue, hcount]
  rfl

theorem EmailResult.isSome_getResultCounts {groups : List (String × Int)} {topicId : String} :
    (EmailResult.getResultCountsByTopicId groups topicId db).isSome = true ↔
      groups.Perm (resultGroups topicId db) := by
  rw [EmailResult.getResultCountsByTopicId, ← List.isPerm_iff]
  split <;> simp_all

/-- The groups of the JOIN are those of the topic's results. -/
theorem resultGroups_eq (topicId : String) (db : Db) :
    resultGroups topicId db =
      (groupBy (fun x : (Int × ResultRow) × (Int × RequestRow) => x.1.2.status)
        (resultPairs topicId db)).map fun g =>
          (g.1, ((g.2.map fun x => x.1.2.requestId).dedup.length : Int)) := by
  have hkey : ∀ x : (Int × ResultRow) × (Int × RequestRow), ResultRow.status x.1.2 =
      id x.1.2.status := fun _ => rfl
  rw [resultGroups, ← map_resultPairs, groupBy_map id _ Function.injective_id hkey, List.map_map]
  refine List.map_congr_left fun g _ => ?_
  simp only [Function.comp_apply, List.map_map]
  rfl

theorem selects_results (topicId : String) :
    db.Selects now EmailResult.countsSql [.text topicId] rows ↔
      ∃ groups, (EmailResult.getResultCountsByTopicId groups topicId db).isSome = true ∧
        rows = groups.map resultGroupValues := by
  simp only [EmailResult.isSome_getResultCounts]
  rw [selects_iff EmailResult.parse_countsSql, Select.yields_perm_iff _ _ _ rfl rfl
    (product_results db) rfl (groups_results topicId db) fun g hg => output_results hg,
    resultGroups_eq]
  exact Lists.exists_perm_map_iff

/-- The queries behind the figures, and behind a notification, by their texts. -/
theorem report_statements_exact (now : Instant) (db : Db) :
    (∀ hours answer, (∃ rows, db.Selects now EmailRequest.sentCountSql
        (EmailRequest.sentCountBinds hours) rows ∧ fetchOne rows = answer) ↔
      answer = EmailRequest.sentCount now hours db.requests) ∧
    (∀ messageId, (db.requests.rows.filter fun r => r.2.messageId = some messageId).length ≤ 1 →
      ∀ answer, (∃ rows, db.Selects now EmailRequest.idSql [.text messageId] rows ∧
          fetchOne rows = answer) ↔
        answer = EmailRequest.getRequestIdByMessageId messageId db.requests) ∧
    (∀ topicId rows, db.Selects now EmailRequest.countsSql [.text topicId] rows ↔
      ∃ groups, (EmailRequest.getRequestCountsByTopicId groups topicId db.requests).isSome = true ∧
        rows = groups.map statusGroupValues) ∧
    ∀ topicId rows, db.Selects now EmailResult.countsSql [.text topicId] rows ↔
      ∃ groups, (EmailResult.getResultCountsByTopicId groups topicId db).isSome = true ∧
        rows = groups.map resultGroupValues :=
  ⟨fetchOne_sentCount, fun _ hone => fetchOne_id hone, fun topicId _ => selects_counts topicId,
    fun topicId _ => selects_results topicId⟩

/-- The mail that was due is sent. -/
def sentDb : Db :=
  { dueDb with requests := dueDb.requests.update (fun id _ => id = 1) fun _ row =>
      { row with status := EmailMessageStatus.sent.asI32, messageId := some "m-1" } }

theorem report_statements_exact_sample : ∃ rows,
    sentDb.Selects newYear EmailRequest.idSql [.text "m-1"] rows ∧ fetchOne rows = .ok 1 :=
  ((report_statements_exact newYear sentDb).2.1 "m-1" (by decide) (.ok 1)).2 (by decide)

end Ses
