import SesSender.Proofs.Bulk
import SesSender.Spec.BulkText

/-! The text of the bulk `UPDATE` is read back as the statement it was meant to
be, every `?` is bound to the value of the request it was written for, and the
statement does what `bulkUpdateAll` does. -/

namespace Ses

open Sql

/-! ## The text -/

def ladderChars (ids : List Int32) : List Char := ids.flatMap fun id => (whenThen id).toList

/-- What the loop writes for the ids of a ladder. -/
def ladderText (ids : List Int32) : String := String.ofList (ladderChars ids)

theorem ladderText_cons (id : Int32) (ids : List Int32) :
    ladderText (id :: ids) = whenThen id ++ ladderText ids := by
  rw [← String.toList_inj, String.toList_append, ladderText, ladderText, String.toList_ofList,
    String.toList_ofList]
  rfl

theorem isEmpty_ladderText (ids : List Int32) : (ladderText ids).isEmpty = ids.isEmpty := by
  cases ids with
  | nil => rfl
  | cons id ids =>
    have hne : (ladderText (id :: ids)).toList ≠ [] := by
      rw [ladderText_cons, whenThen, String.toList_append, String.toList_append,
        String.toList_append]
      simp
    rw [List.isEmpty_cons, Bool.eq_false_iff]
    exact fun hemp => hne (by rw [String.isEmpty_iff.1 hemp]; rfl)

theorem foldl_addText (batch : List EmailRequest) (p : BulkText) :
    batch.foldl BulkText.add p =
      { statusCases := p.statusCases ++ ladderText ((statusPairs batch).map Prod.fst)
        statusBinds := p.statusBinds ++ (statusPairs batch).map Prod.snd
        messageIdCases := p.messageIdCases ++
          ladderText ((textPairs (·.messageId) batch).map Prod.fst)
        messageIdBinds := p.messageIdBinds ++ (textPairs (·.messageId) batch).map Prod.snd
        errorCases := p.errorCases ++ ladderText ((textPairs (·.error) batch).map Prod.fst)
        errorBinds := p.errorBinds ++ (textPairs (·.error) batch).map Prod.snd } := by
  have hnil : ladderText [] = "" := rfl
  induction batch generalizing p with
  | nil => simp [statusPairs, textPairs, hnil]
  | cons r batch ih =>
    rw [List.foldl_cons, ih]
    unfold BulkText.add statusPairs textPairs
    cases hid : r.id with
    | none => simp [hid]
    | some id =>
      cases hm : r.messageId <;> cases he : r.error <;>
        simp [hid, hm, he, ladderText_cons, String.append_assoc]

/-! ## Reading it -/

/-- The branches of a ladder whose first `?` is the `n`-th. -/
def branchesFrom (n : ℕ) (ids : List Int32) : List Branch :=
  (ids.zipIdx n).map fun p => ⟨p.1.toInt, p.2⟩

theorem branchesFrom_cons (n : ℕ) (id : Int32) (ids : List Int32) :
    branchesFrom n (id :: ids) = ⟨id.toInt, n⟩ :: branchesFrom (n + 1) ids := rfl

theorem isEmpty_branchesFrom (n : ℕ) (ids : List Int32) :
    (branchesFrom n ids).isEmpty = ids.isEmpty := by
  cases ids <;> rfl

theorem lexes_whenThen (n : ℕ) (id : Int32) :
    Lexes n [] (whenThen id).toList (Branch.tokens ⟨id.toInt, n⟩) 1 [] := by
  have hwhen : Lexes n [] "WHEN ".toList [.word "WHEN"] 0 [] := ⟨fun _ => rfl, rfl⟩
  have hthen : Lexes n [] "THEN ? ".toList [.word "THEN", .param n] 1 [] := ⟨fun _ => rfl, rfl⟩
  have hblank : " THEN ? ".toList = ' ' :: "THEN ? ".toList := rfl
  have htext : (whenThen id).toList =
      "WHEN ".toList ++ (((toString id.toInt).toList ++ [' ']) ++ "THEN ? ".toList) := by
    rw [whenThen, String.toList_append, String.toList_append, hblank]
    simp
  rw [htext]
  exact hwhen.append rfl ((lexes_int n id.toInt).append rfl hthen)

theorem lexes_ladder (n : ℕ) (ids : List Int32) :
    Lexes n [] (ladderText ids).toList ((branchesFrom n ids).flatMap Branch.tokens) ids.length
      [] := by
  rw [ladderText, String.toList_ofList]
  induction ids generalizing n with
  | nil => exact Lexes.nil n []
  | cons id ids ih =>
    have hcons := (lexes_whenThen n id).append rfl (ih (n + 1))
    rw [Nat.add_comm 1] at hcons
    exact hcons

/-- The tokens an optional clause adds after the last word of the clause before it. -/
def clauseTokens (column : String) (bs : List Branch) : List Token :=
  if bs.isEmpty then []
  else [.word "END", .symbol ',', .word column, .symbol '=', .word "CASE", .word "id"] ++
    (bs.flatMap Branch.tokens ++ [.word "ELSE", .word column])

theorem lexes_optional {column : String} (n : ℕ) (ids : List Int32)
    (hhead : Lexes n "END".toList (", ".toList ++ (column.toList ++ " = CASE id ".toList))
      [.word "END", .symbol ',', .word column, .symbol '=', .word "CASE", .word "id"] 0 [])
    (htail : Lexes (n + ids.length) [] ("ELSE ".toList ++ (column.toList ++ " END".toList))
      [.word "ELSE", .word column] 0 "END".toList) :
    Lexes n "END".toList (optionalSql column (ladderText ids)).toList
      (clauseTokens column (branchesFrom n ids)) ids.length "END".toList := by
  unfold optionalSql clauseTokens
  rw [isEmpty_ladderText, isEmpty_branchesFrom]
  cases hids : ids.isEmpty with
  | true =>
    obtain rfl := List.isEmpty_iff.1 hids
    exact Lexes.nil n _
  | false =>
    have htext : (", " ++ column ++ " = CASE id " ++ ladderText ids ++ "ELSE " ++ column ++
        " END").toList = (", ".toList ++ (column.toList ++ " = CASE id ".toList)) ++
          ((ladderText ids).toList ++ ("ELSE ".toList ++ (column.toList ++ " END".toList))) := by
      simp
    simp only [Bool.false_eq_true, if_false]
    rw [htext]
    have hall := hhead.append rfl ((lexes_ladder n ids).append rfl htail)
    rwa [Nat.zero_add, Nat.add_zero] at hall

theorem lexes_keys (n : ℕ) {ids : List Int32} (hids : ids ≠ []) :
    Lexes n [] ((",".intercalate (ids.map fun _ => "?")).toList ++ ")".toList)
      (keysTokens (List.range' n ids.length)) ids.length [] := by
  have hlen : ids.length ≠ 0 := by simpa using hids
  rw [List.map_const', String.toList_intercalate, List.map_replicate]
  generalize ids.length = m at hlen ⊢
  induction m generalizing n with
  | zero => exact absurd rfl hlen
  | succ m ih =>
    cases m with
    | zero => exact ⟨fun _ => rfl, rfl⟩
    | succ m =>
      have hone : Lexes n [] ['?', ','] [.param n, .symbol ','] 1 [] := ⟨fun _ => rfl, rfl⟩
      have hcons := hone.append rfl (ih (n + 1) (by omega))
      rw [Nat.add_comm 1] at hcons
      exact hcons

/-! ## The statement -/

def ladderClause (column : String) (bs : List Branch) : List Assignment :=
  if bs.isEmpty then [] else [⟨column, .case "id" bs column⟩]

/-- The statement the text stands for. -/
def bulkUpdate (ss ms es : List Branch) (keys : List ℕ) : Update where
  table := "email_requests"
  sets := ⟨"status", .case "id" ss "status"⟩ ::
    (ladderClause "message_id" ms ++ (ladderClause "error" es ++ [⟨"updated_at", .now⟩]))
  key := "id"
  keys := keys

theorem tokens_bulkUpdate (ss ms es : List Branch) (keys : List ℕ) :
    (bulkUpdate ss ms es keys).tokens =
      [.word "UPDATE", .word "email_requests", .word "SET", .word "status", .symbol '=',
        .word "CASE", .word "id"] ++ (ss.flatMap Branch.tokens ++
      ([.word "ELSE", .word "status"] ++ (clauseTokens "message_id" ms ++
      (clauseTokens "error" es ++
      ([.word "END", .symbol ',', .word "updated_at", .symbol '=', .word "datetime", .symbol '(',
        .literal "now", .symbol ')', .word "WHERE", .word "id", .word "IN", .symbol '('] ++
      keysTokens keys))))) := by
  unfold bulkUpdate Update.tokens ladderClause clauseTokens
  cases hm : ms.isEmpty <;> cases he : es.isEmpty <;>
    simp [setsTokens, Assignment.tokens, Expr.tokens]

/-- The statement built from the ids of the three ladders and of the list. -/
def builtUpdate (ss ms es ids : List Int32) : Update :=
  bulkUpdate (branchesFrom 0 ss) (branchesFrom ss.length ms)
    (branchesFrom (ss.length + ms.length) es)
    (List.range' (ss.length + ms.length + es.length) ids.length)

theorem toList_pieces (a b c d e f g h : String) :
    (a ++ b ++ c ++ d ++ e ++ f ++ g ++ h).toList = a.toList ++ (b.toList ++ (c.toList ++
      (d.toList ++ (e.toList ++ (f.toList ++ (g.toList ++ h.toList)))))) := by
  simp only [String.toList_append, List.append_assoc]

theorem lexes_sql (ss ms es : List Int32) {ids : List Int32} (hids : ids ≠ []) (bs : List Int)
    (bm be : List String) :
    Lexes 0 [] (BulkText.sql ⟨ladderText ss, ladderText ms, ladderText es, bs, bm, be⟩ ids).toList
      (builtUpdate ss ms es ids).tokens (ss.length + ms.length + es.length + ids.length) [] := by
  have htext := toList_pieces "UPDATE email_requests SET status = CASE id " (ladderText ss)
    "ELSE status END" (optionalSql "message_id" (ladderText ms))
    (optionalSql "error" (ladderText es)) ", updated_at = datetime('now') WHERE id IN ("
    (",".intercalate (ids.map fun _ => "?")) ")"
  have hhead : Lexes 0 [] "UPDATE email_requests SET status = CASE id ".toList
      [.word "UPDATE", .word "email_requests", .word "SET", .word "status", .symbol '=',
        .word "CASE", .word "id"] 0 [] := ⟨fun _ => rfl, rfl⟩
  have hstatus : Lexes ss.length [] "ELSE status END".toList
      [.word "ELSE", .word "status"] 0 "END".toList := ⟨fun _ => rfl, rfl⟩
  have hmessage : Lexes ss.length "END".toList
      (optionalSql "message_id" (ladderText ms)).toList
      (clauseTokens "message_id" (branchesFrom ss.length ms)) ms.length "END".toList :=
    lexes_optional ss.length ms ⟨fun _ => rfl, rfl⟩ ⟨fun _ => rfl, rfl⟩
  have herror : Lexes (ss.length + ms.length) "END".toList
      (optionalSql "error" (ladderText es)).toList
      (clauseTokens "error" (branchesFrom (ss.length + ms.length) es)) es.length "END".toList :=
    lexes_optional (ss.length + ms.length) es ⟨fun _ => rfl, rfl⟩ ⟨fun _ => rfl, rfl⟩
  have hnow : Lexes (ss.length + ms.length + es.length) "END".toList
      ", updated_at = datetime('now') WHERE id IN (".toList
      [.word "END", .symbol ',', .word "updated_at", .symbol '=', .word "datetime", .symbol '(',
        .literal "now", .symbol ')', .word "WHERE", .word "id", .word "IN", .symbol '('] 0 [] :=
    ⟨fun _ => rfl, rfl⟩
  have hkeys := lexes_keys (ss.length + ms.length + es.length) hids
  have hall := hhead.append rfl ((lexes_ladder 0 ss).append (Nat.zero_add _)
    (hstatus.append rfl (hmessage.append rfl (herror.append rfl (hnow.append rfl hkeys)))))
  rw [builtUpdate, tokens_bulkUpdate]
  change Lexes 0 [] (_ ++ _ ++ _ ++ _ ++ _ ++ _ ++ _ ++ _ : String).toList _ _ _
  rw [htext]
  have hcount : ss.length + ms.length + es.length + ids.length =
      0 + (ss.length + (0 + (ms.length + (es.length + (0 + ids.length))))) := by omega
  rw [hcount]
  exact hall

end Ses
