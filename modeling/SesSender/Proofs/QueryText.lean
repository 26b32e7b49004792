import SesSender.Proofs.BulkText
import SesSender.Spec.Queries

/-! Each text is read back as the statement it was meant to be. -/

namespace Ses

open Sql

/-! ## The texts -/

/-- `status = ?, updated_at = datetime('now')` -/
def statusSets : List (String × Operand) := [("status", .param 0), ("updated_at", .now)]

def EmailRequest.updateStatement : Change where
  table := "email_requests"
  sets := [("status", .param 0), ("message_id", .param 1), ("error", .param 2), ("updated_at", .now)]
  filter := .all [.compare (.column "" "id") .eq (.param 3)]
  returning := []

def EmailRequest.stopTopicStatement : Change where
  table := "email_requests"
  sets := statusSets
  filter := .all [.compare (.column "" "status") .eq (.param 1),
    .compare (.column "" "topic_id") .eq (.param 2)]
  returning := []

def rollbackStatement (n : ℕ) : Change where
  table := "email_requests"
  sets := statusSets
  filter := .all [.among (.column "" "id") (List.range' 1 n)]
  returning := []

def dueSelect : Select where
  items := [.value (.column "" "id")]
  source := ⟨"email_requests", "email_requests"⟩
  join := none
  filter := [.compare (.column "" "status") .eq (.param 1),
    .compare (.column "" "scheduled_at") .le .now]
  groupBy := none
  orderBy := some (.column "" "scheduled_at")
  limit := some 2

def claimStatement : Change where
  table := "email_requests"
  sets := statusSets
  filter := .among (.column "" "id") dueSelect
  returning := [.column "" "id", .column "" "topic_id", .column "" "content_id", .column "" "email"]

def fetchStatement (n : ℕ) : Select where
  items := [.value (.column "r" "id"), .value (.column "r" "topic_id"),
    .value (.column "r" "content_id"), .value (.column "r" "email"), .value (.column "c" "subject"),
    .value (.column "c" "content")]
  source := ⟨"email_requests", "r"⟩
  join := some ⟨⟨"email_contents", "c"⟩, .column "r" "content_id", .column "c" "id"⟩
  filter := [.among (.column "r" "id") (List.range' 0 n)]
  groupBy := none
  orderBy := none
  limit := none

def EmailRequest.sentCountStatement : Select where
  items := [.countAll]
  source := ⟨"email_requests", "email_requests"⟩
  join := none
  filter := [.compare (.column "" "status") .eq (.param 0),
    .compare (.column "" "created_at") .ge (.shifted 1)]
  groupBy := none
  orderBy := none
  limit := none

def EmailRequest.countsStatement : Select where
  items := [.value (.column "" "status"), .countAll]
  source := ⟨"email_requests", "email_requests"⟩
  join := none
  filter := [.compare (.column "" "topic_id") .eq (.param 0)]
  groupBy := some (.column "" "status")
  orderBy := none
  limit := none

def EmailRequest.idStatement : Select where
  items := [.value (.column "" "id")]
  source := ⟨"email_requests", "email_requests"⟩
  join := none
  filter := [.compare (.column "" "message_id") .eq (.param 0)]
  groupBy := none
  orderBy := none
  limit := none

def EmailResult.countsStatement : Select where
  items := [.value (.column "r" "status"), .countDistinct (.column "r" "request_id")]
  source := ⟨"email_results", "r"⟩
  join := some ⟨⟨"email_requests", "req"⟩, .column "r" "request_id", .column "req" "id"⟩
  filter := [.compare (.column "req" "topic_id") .eq (.param 0)]
  groupBy := some (.column "r" "status")
  orderBy := none
  limit := none

theorem EmailRequest.parse_updateSql :
    parseChange EmailRequest.updateSql = some EmailRequest.updateStatement := by
  unfold parseChange oneLine EmailRequest.updateSql
  rw [String.toList_ofList]
  decide +kernel

theorem EmailRequest.parse_stopTopicSql :
    parseChange EmailRequest.stopTopicSql = some EmailRequest.stopTopicStatement := by
  unfold parseChange oneLine EmailRequest.stopTopicSql
  rw [String.toList_ofList]
  decide +kernel

theorem parse_claimSql : parseChange claimSql = some claimStatement := by
  unfold parseChange oneLine claimSql
  simp only [String.toList_append]
  repeat rw [String.toList_ofList]
  decide +kernel

theorem EmailRequest.parse_sentCountSql :
    parseSelect EmailRequest.sentCountSql = some EmailRequest.sentCountStatement := by
  unfold parseSelect oneLine EmailRequest.sentCountSql
  rw [String.toList_ofList]
  decide +kernel

theorem EmailRequest.parse_countsSql :
    parseSelect EmailRequest.countsSql = some EmailRequest.countsStatement := by
  unfold parseSelect oneLine EmailRequest.countsSql
  rw [String.toList_ofList]
  decide +kernel

theorem EmailRequest.parse_idSql :
    parseSelect EmailRequest.idSql = some EmailRequest.idStatement := by
  unfold parseSelect oneLine EmailRequest.idSql
  rw [String.toList_ofList]
  decide +kernel

/-- Read token by token first: words that are still to be put together are slow to parse. -/
theorem EmailResult.lex_countsSql : lex 0 false [] (oneLine EmailResult.countsSql) =
    [.word "SELECT", .word "r", .symbol '.', .word "status", .symbol ',', .word "COUNT", .symbol '(',
      .word "DISTINCT", .word "r", .symbol '.', .word "request_id", .symbol ')', .word "FROM",
      .word "email_results", .word "r", .word "INNER", .word "JOIN", .word "email_requests",
      .word "req", .word "ON", .word "r", .symbol '.', .word "request_id", .symbol '=', .word "req",
      .symbol '.', .word "id", .word "WHERE", .word "req", .symbol '.', .word "topic_id",
      .symbol '=', .param 0, .word "GROUP", .word "BY", .word "r", .symbol '.', .word "status"] := by
  unfold oneLine EmailResult.countsSql
  simp only [String.toList_append]
  repeat rw [String.toList_ofList]
  decide +kernel

theorem EmailResult.parse_countsSql :
    parseSelect EmailResult.countsSql = some EmailResult.countsStatement := by
  rw [parseSelect, EmailResult.lex_countsSql]
  rfl

/-! ## Lists of placeholders -/

theorem oneLine_append (a b : String) : oneLine (a ++ b) = oneLine a ++ oneLine b := by
  rw [oneLine, String.toList_append, List.map_append]
  rfl

theorem oneLine_questionMarks (n : ℕ) : oneLine (questionMarks n) = (questionMarks n).toList := by
  unfold oneLine questionMarks
  rw [String.toList_intercalate, List.map_replicate]
  induction n with
  | zero => rfl
  | succ n ih =>
    cases n with
    | zero => rfl
    | succ n =>
      rw [List.replicate_succ, List.replicate_succ, List.intercalate_cons_cons, List.map_append,
        List.map_append, ← List.replicate_succ, ih]
      rfl

theorem lexes_questionMarks (m : ℕ) {n : ℕ} (hn : n ≠ 0) :
    Lexes m [] (oneLine (questionMarks n ++ ")")) (keysTokens (List.range' m n)) n [] := by
  have hne : List.replicate n (0 : Int32) ≠ [] := by simpa using hn
  have hkeys := lexes_keys m hne
  rw [List.map_replicate, List.length_replicate] at hkeys
  rw [oneLine_append, oneLine_questionMarks]
  exact hkeys

theorem parse_rollbackSql {n : ℕ} (hn : n ≠ 0) :
    parseChange (rollbackSql n) = some (rollbackStatement n) := by
  have htext : oneLine (rollbackSql n) = "UPDATE email_requests SET status=?".toList ++
      (", updated_at=datetime('now') WHERE ".toList ++ ("id IN (".toList ++
        oneLine (questionMarks n ++ ")"))) := by
    have hhead : oneLine
        "UPDATE email_requests SET status=?, updated_at=datetime('now') WHERE id IN (" =
        "UPDATE email_requests SET status=?".toList ++
          (", updated_at=datetime('now') WHERE ".toList ++ "id IN (".toList) := by
      decide +kernel
    have hsplit : rollbackSql n =
        "UPDATE email_requests SET status=?, updated_at=datetime('now') WHERE id IN (" ++
          (questionMarks n ++ ")") := String.append_assoc
    rw [hsplit, oneLine_append, hhead]
    simp only [List.append_assoc]
  have hset : Lexes 0 [] "UPDATE email_requests SET status=?".toList
      [.word "UPDATE", .word "email_requests", .word "SET", .word "status", .symbol '=', .param 0]
      1 [] := ⟨fun _ => rfl, rfl⟩
  have hnow : Lexes 1 [] ", updated_at=datetime('now') WHERE ".toList
      [.symbol ',', .word "updated_at", .symbol '=', .word "datetime", .symbol '(', .literal "now",
        .symbol ')', .word "WHERE"] 0 [] := ⟨fun _ => rfl, rfl⟩
  have hid : Lexes 1 [] "id IN (".toList [.word "id", .word "IN", .symbol '('] 0 [] :=
    ⟨fun _ => rfl, rfl⟩
  have hall := hset.append rfl (hnow.append rfl (hid.append rfl (lexes_questionMarks 1 hn)))
  have hkeys : List.range' 1 n ≠ [] := by simpa using hn
  have hfilter := @parseFilter_among (.column "" "id") [.word "id"] _ hkeys rfl
  rw [parseChange, htext, hall.lex_all]
  simp only [List.cons_append, List.nil_append] at hfilter ⊢
  simp only [parseChangeTokens, List.length_cons, parseSep, parseSet, parseOperand, Option.map_some,
    if_true, reduceCtorEq, if_false, hfilter, Option.bind_some, parseReturning]
  rfl

def fetchItems : List Token :=
  [.word "r", .symbol '.', .word "id", .symbol ',', .word "r", .symbol '.', .word "topic_id",
    .symbol ',', .word "r", .symbol '.', .word "content_id", .symbol ',', .word "r", .symbol '.',
    .word "email", .symbol ',', .word "c", .symbol '.', .word "subject", .symbol ',', .word "c",
    .symbol '.', .word "content"]

/-- The tokens of phase 2 behind `FROM`. -/
def fetchTokens (list : List Token) : List Token :=
  [.word "email_requests", .word "r", .word "JOIN", .word "email_contents", .word "c",
    .word "ON", .word "r", .symbol '.', .word "content_id", .symbol '=', .word "c", .symbol '.',
    .word "id", .word "WHERE", .word "r", .symbol '.', .word "id", .word "IN", .symbol '('] ++ list

theorem lexes_fetchSql {n : ℕ} (hn : n ≠ 0) : Lexes 0 [] (oneLine (fetchSql n))
    (.word "SELECT" :: (fetchItems ++ .word "FROM" :: fetchTokens (keysTokens (List.range' 0 n)))) n
    [] := by
  have htext : oneLine (fetchSql n) = "SELECT r.id, r.topic_id, ".toList ++
      ("r.content_id, r.email, ".toList ++ ("c.subject, c.content ".toList ++
        ("         FROM email_requests r ".toList ++ ("         JOIN email_contents c ".toList ++
          ("ON r.content_id = c.id ".toList ++ ("         WHERE r.id IN (".toList ++
            oneLine (questionMarks n ++ ")"))))))) := by
    have hitems : oneLine "SELECT r.id, r.topic_id, r.content_id, r.email, c.subject, c.content\n" =
        "SELECT r.id, r.topic_id, ".toList ++
          ("r.content_id, r.email, ".toList ++ "c.subject, c.content ".toList) := by
      decide +kernel
    have hfrom : oneLine "         FROM email_requests r\n" =
        "         FROM email_requests r ".toList := by
      decide +kernel
    have hjoin : oneLine "         JOIN email_contents c ON r.content_id = c.id\n" =
        "         JOIN email_contents c ".toList ++ "ON r.content_id = c.id ".toList := by
      decide +kernel
    have hwhere : oneLine "         WHERE r.id IN (" = "         WHERE r.id IN (".toList := by
      decide +kernel
    unfold fetchSql
    simp only [oneLine_append, hitems, hfrom, hjoin, hwhere, List.append_assoc]
  have hselect : Lexes 0 [] "SELECT r.id, r.topic_id, ".toList
      [.word "SELECT", .word "r", .symbol '.', .word "id", .symbol ',', .word "r", .symbol '.',
        .word "topic_id", .symbol ','] 0 [] := ⟨fun _ => rfl, rfl⟩
  have hrequest : Lexes 0 [] "r.content_id, r.email, ".toList
      [.word "r", .symbol '.', .word "content_id", .symbol ',', .word "r", .symbol '.',
        .word "email", .symbol ','] 0 [] := ⟨fun _ => rfl, rfl⟩
  have hcontent : Lexes 0 [] "c.subject, c.content ".toList
      [.word "c", .symbol '.', .word "subject", .symbol ',', .word "c", .symbol '.',
        .word "content"] 0 [] := ⟨fun _ => rfl, rfl⟩
  have hfrom : Lexes 0 [] "         FROM email_requests r ".toList
      [.word "FROM", .word "email_requests", .word "r"] 0 [] := ⟨fun _ => rfl, rfl⟩
  have hjoin : Lexes 0 [] "         JOIN email_contents c ".toList
      [.word "JOIN", .word "email_contents", .word "c"] 0 [] := ⟨fun _ => rfl, rfl⟩
  have hon : Lexes 0 [] "ON r.content_id = c.id ".toList
      [.word "ON", .word "r", .symbol '.', .word "content_id", .symbol '=', .word "c", .symbol '.',
        .word "id"] 0 [] := ⟨fun _ => rfl, rfl⟩
  have hwhere : Lexes 0 [] "         WHERE r.id IN (".toList
      [.word "WHERE", .word "r", .symbol '.', .word "id", .word "IN", .symbol '('] 0 [] :=
    ⟨fun _ => rfl, rfl⟩
  have hall := hselect.append rfl (hrequest.append rfl (hcontent.append rfl (hfrom.append rfl
    (hjoin.append rfl (hon.append rfl (hwhere.append rfl (lexes_questionMarks 0 hn)))))))
  rw [htext]
  simp only [Nat.zero_add] at hall
  exact hall

theorem parseFrom_fetch {n : ℕ} (hn : n ≠ 0) :
    parseFrom (fetchStatement n).items (fetchTokens (keysTokens (List.range' 0 n))) =
      some (fetchStatement n, []) := by
  have hkeys : List.range' 0 n ≠ [] := by simpa using hn
  have hsource : ∀ list, parseSource (fetchTokens list) =
      some (⟨"email_requests", "r"⟩, (fetchTokens list).drop 2) := by
    simp [parseSource, fetchTokens, keywords]
  have hjoin : ∀ list, parseJoin ((fetchTokens list).drop 2) =
      some ((fetchStatement n).join, (fetchTokens list).drop 13) := fun _ => rfl
  have hwhere : parseWhere ((fetchTokens (keysTokens (List.range' 0 n))).drop 13) =
      some ((fetchStatement n).filter, []) :=
    @parseConditions_among (.column "r" "id") [.word "r", .symbol '.', .word "id"] _ hkeys rfl
  rw [parseFrom, hsource, Option.bind_some, hjoin, Option.bind_some, hwhere]
  rfl

theorem parse_fetchSql {n : ℕ} (hn : n ≠ 0) :
    parseSelect (fetchSql n) = some (fetchStatement n) := by
  have hitems : ∀ k rest, parseSep parseItem (.symbol ',') (k + 6)
      (fetchItems ++ .word "FROM" :: rest) =
        some ((fetchStatement n).items, .word "FROM" :: rest) := fun _ _ => rfl
  have hlen : ∀ rest : List Token,
      (fetchItems ++ .word "FROM" :: rest).length = rest.length + 18 + 6 := fun rest => by
    simp [fetchItems]
  rw [parseSelect, (lexes_fetchSql hn).lex_all, parseSelectTokens, hlen, hitems]
  simp only [parseFrom_fetch hn]

end Ses
