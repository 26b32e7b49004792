import SesSender.Lib.Transaction
import SesSender.Spec.Requests

/-! `save_batch` as it is executed: statement by statement on one connection,
between `begin` and `commit`, with `last_insert_rowid()` read after each chunk. -/

namespace Ses

open Chunks Transaction

/-- The table as one connection knows it, with its `last_insert_rowid()`. -/
structure Store (α : Type) where
  table : Table α
  lastInsertRowid : Int

section SaveBatch

variable {ρ α : Type} (insert : ℕ → List ρ → Table α → Option (Table α)) (setId : Int32 → ρ → ρ)

/-- The `INSERT` of the `k`-th chunk. -/
def executeInsert (F : TxFaults) (k : ℕ) (chunk : List ρ) : Program (Store α) SqlxError Unit :=
  .statement fun s =>
    if F.insert k then .error .database
    else match insert k chunk s.table with
      | none => .error .database
      | some t => .ok ((), ⟨t, t.seq⟩)

/-- `SELECT last_insert_rowid()` -/
def selectLastId (F : TxFaults) (k : ℕ) : Program (Store α) SqlxError Int :=
  .statement fun s => if F.lastId k then .error .database else .ok (s.lastInsertRowid, s)

/-- The loop over the chunks. -/
def insertChunks (F : TxFaults) :
    ℕ → List (List ρ) → List ρ → Program (Store α) SqlxError (List ρ)
  | _, [], results => .pure results
  | k, chunk :: rest, results =>
    (executeInsert insert F k chunk).bind fun _ =>
      (selectLastId F k).bind fun lastId =>
        insertChunks F (k + 1) rest (results ++ chunk.mapIdx fun i c =>
          setId (asI32 (lastId - ((chunk.length - 1 - i : ℕ) : Int))) c)

def saveBatchTx (F : TxFaults) (xs : List ρ) : Program (Store α) SqlxError (List ρ) :=
  if xs.isEmpty then .pure []
  else .transaction (if F.beginTx then some .database else none)
    (if F.commit then some .database else none)
    (insertChunks insert setId F 0 (chunks BATCH_INSERT_SIZE xs) [])

end SaveBatch

/-- `EmailContent::save_batch` on a connection. -/
def EmailContent.saveBatchTx (clock : ℕ → Instant) (F : TxFaults) (contents : List EmailContent) :
    Program (Store ContentRow) SqlxError (List EmailContent) :=
  Ses.saveBatchTx (EmailContent.insertChunk clock) (fun id c => { c with id := some id }) F contents

/-- `EmailRequest::save_batch` on a connection. -/
def EmailRequest.saveBatchTx (E : Env) (contents : Table ContentRow) (clock : ℕ → Instant)
    (F : TxFaults) (requests : List EmailRequest) :
    Program (Store RequestRow) SqlxError (List EmailRequest) :=
  Ses.saveBatchTx (EmailRequest.insertChunk E contents clock)
    (fun id r => { r with id := some id }) F requests

end Ses
