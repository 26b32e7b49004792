import SesSender.Proofs.Flush

/-! The loop of `receive_post_send_message`: what it receives is what it has
given to `flush_batch`, in order, and what it still holds. -/

namespace Ses

open Calendar

variable {l : PostLoop} {rcvd : List EmailRequest}

structure PostLoop.Inv (l : PostLoop) (rcvd : List EmailRequest) : Prop where
  order : l.flushed.flatten ++ l.batch = rcvd
  flushed : ∀ batch ∈ l.flushed, batch ≠ [] ∧ batch.length ≤ Receiver.BATCH_SIZE
  room : l.batch.length < Receiver.BATCH_SIZE
  ended : l.running = false → l.batch = []

theorem PostLoop.Inv.start (t : Table RequestRow) : (PostLoop.start t).Inv [] :=
  ⟨rfl, fun batch hbatch => by simp [PostLoop.start] at hbatch, Nat.zero_lt_succ _, fun _ => rfl⟩

/-- A flush moves the whole buffer over. -/
theorem PostLoop.Inv.flush (horder : l.flushed.flatten ++ l.batch = rcvd)
    (hflushed : ∀ batch ∈ l.flushed, batch ≠ [] ∧ batch.length ≤ Receiver.BATCH_SIZE)
    (hne : l.batch ≠ []) (hle : l.batch.length ≤ Receiver.BATCH_SIZE) (env : FlushEnv) :
    (l.flush env).Inv rcvd := by
  have hleft : (l.flush env).batch = [] := flush_left env l.batch l.requests
  refine ⟨?_, fun batch hbatch => ?_, by rw [hleft]; decide, fun _ => hleft⟩
  · rw [hleft, PostLoop.flush, List.flatten_append, List.append_nil, ← horder]
    simp
  · rcases List.mem_append.1 hbatch with hold | hnew
    · exact hflushed batch hold
    · obtain rfl := List.mem_singleton.1 hnew
      exact ⟨hne, hle⟩

theorem PostLoop.Inv.received (h : l.Inv rcvd) (hrun : l.running = true) (req : EmailRequest)
    (elapsed : Bool) (env : FlushEnv) :
    (l.turn ⟨.received req, elapsed, env⟩).Inv (rcvd ++ [req]) := by
  obtain ⟨batch, requests, flushed, _⟩ := l
  obtain rfl := hrun
  have hroom : batch.length < Receiver.BATCH_SIZE := h.room
  have horder : flushed.flatten ++ (batch ++ [req]) = rcvd ++ [req] := by
    rw [← List.append_assoc, h.order]
  simp only [PostLoop.turn, Bool.not_true, Bool.false_eq_true, if_false]
  split
  · refine PostLoop.Inv.flush (l := ⟨batch ++ [req], requests, flushed, true⟩) horder h.flushed
      ?_ ?_ env
    · simp
    · simp only [List.length_append, List.length_singleton]
      omega
  · rename_i hfull
    simp only [not_or, Nat.not_le] at hfull
    exact ⟨horder, h.flushed, hfull.1, fun hend => by cases hend⟩

theorem PostLoop.Inv.timeout (h : l.Inv rcvd) (hrun : l.running = true) (elapsed : Bool)
    (env : FlushEnv) : (l.turn ⟨.timeout, elapsed, env⟩).Inv rcvd := by
  simp only [PostLoop.turn, hrun, Bool.not_true, Bool.false_eq_true, if_false]
  split
  · rename_i hflush
    refine PostLoop.Inv.flush h.order h.flushed ?_ h.room.le env
    simp only [Bool.and_eq_true, Bool.not_eq_true', List.isEmpty_eq_false_iff] at hflush
    exact hflush.1
  · exact h

theorem PostLoop.Inv.closed (h : l.Inv rcvd) (hrun : l.running = true) (elapsed : Bool)
    (env : FlushEnv) : (l.turn ⟨.closed, elapsed, env⟩).Inv rcvd ∧
      (l.turn ⟨.closed, elapsed, env⟩).running = false := by
  simp only [PostLoop.turn, hrun, Bool.not_true, Bool.false_eq_true, if_false]
  refine ⟨?_, trivial⟩
  split
  · rename_i hne
    rw [Bool.not_eq_true', List.isEmpty_eq_false_iff] at hne
    have hf := PostLoop.Inv.flush h.order h.flushed hne h.room.le env
    exact ⟨hf.order, hf.flushed, hf.room, fun _ => flush_left env l.batch l.requests⟩
  · rename_i hemp
    exact ⟨h.order, h.flushed, h.room, fun _ => by simpa using hemp⟩

theorem PostLoop.run_stopped (hend : l.running = false) (turns : List PostTurn) :
    l.run turns = l := by
  induction turns with
  | nil => rfl
  | cons turn turns ih =>
    have hturn : l.turn turn = l := by simp [PostLoop.turn, hend]
    rw [PostLoop.run, List.foldl_cons, hturn]
    exact ih

theorem PostLoop.turn_running (hrun : l.running = true) {turn : PostTurn}
    (hopen : ∀ elapsed env, turn ≠ ⟨.closed, elapsed, env⟩) : (l.turn turn).running = true := by
  obtain ⟨batch, requests, flushed, _⟩ := l
  obtain rfl := hrun
  obtain ⟨event, elapsed, env⟩ := turn
  simp only [PostLoop.turn, Bool.not_true, Bool.false_eq_true, if_false]
  cases event with
  | closed => exact absurd rfl (hopen elapsed env)
  | received req => dsimp only; split <;> rfl
  | timeout => dsimp only; split <;> rfl

theorem PostLoop.Inv.run (h : l.Inv rcvd) (hrun : l.running = true) (turns : List PostTurn) :
    (l.run turns).Inv (rcvd ++ Ses.received turns) := by
  induction turns generalizing l rcvd with
  | nil => simpa [Ses.received, PostLoop.run] using h
  | cons turn turns ih =>
    obtain ⟨event, elapsed, env⟩ := turn
    rw [PostLoop.run, List.foldl_cons]
    cases event with
    | received req =>
      have hnext := ih (h.received hrun req elapsed env)
        (PostLoop.turn_running hrun fun _ _ => by simp)
      rwa [List.append_assoc] at hnext
    | timeout => exact ih (h.timeout hrun elapsed env) (PostLoop.turn_running hrun fun _ _ => by simp)
    | closed =>
      obtain ⟨hinv, hend⟩ := h.closed hrun elapsed env
      have hstop := PostLoop.run_stopped hend turns
      rw [PostLoop.run] at hstop
      rw [hstop, Ses.received, List.append_nil]
      exact hinv

/-- Nothing received is lost, doubled or reordered, whatever comes in which order
and whichever statements fail. -/
theorem batching_keeps_order (t : Table RequestRow) (turns : List PostTurn) :
    ((PostLoop.start t).run turns).flushed.flatten ++ ((PostLoop.start t).run turns).batch =
      received turns ∧
    (∀ batch ∈ ((PostLoop.start t).run turns).flushed,
      batch ≠ [] ∧ batch.length ≤ Receiver.BATCH_SIZE) ∧
    (∀ env batch requests, (flushBatch env batch requests).2 = []) ∧
    ((PostLoop.start t).run turns).batch.length < Receiver.BATCH_SIZE ∧
    (((PostLoop.start t).run turns).running = false →
      ((PostLoop.start t).run turns).batch = []) := by
  have h := (PostLoop.Inv.start t).run rfl turns
  exact ⟨h.order, h.flushed, flush_left, h.room, h.ended⟩

/-! ## The loop and the steps of the system -/

/-- An iteration is one of the post-processor, and the flush it calls for. -/
theorem PostLoop.turn_eq_iterate (hrun : l.running = true) (turn : PostTurn) :
    l.turn turn =
      match PostProcessor.iterate l.batch turn.elapsed turn.event with
      | .collecting batch => { l with batch }
      | .flushing batch last =>
        { ({ l with batch } : PostLoop).flush turn.flush with running := !last }
      | .draining _ _ => l
      | .stopped => { l with running := false } := by
  obtain ⟨batch, requests, flushed, _⟩ := l
  obtain rfl := hrun
  obtain ⟨event, elapsed, env⟩ := turn
  simp only [PostLoop.turn, Bool.not_true, Bool.false_eq_true, if_false]
  cases event with
  | received req => simp only [PostProcessor.iterate]; split <;> rfl
  | timeout => simp only [PostProcessor.iterate]; split <;> rfl
  | closed => simp only [PostProcessor.iterate]; cases batch.isEmpty <;> rfl

/-- The steps of the fallback, from the `k`-th request on. -/
theorem run_flushOne {E : Env} {env : FlushEnv} {batch : List EmailRequest} (hne : batch ≠ [])
    (k : ℕ) {s : Sys} {last : Bool} (hclock : ∀ k, env.clock k = s.now)
    (hpost : s.post = .draining batch last) :
    Exec.run (Sys.step E) s
        ((List.range' k batch.length).map fun j => .flushOne (!env.updateFails j)) =
      some { s with
        db := { s.db with
          requests := (fallbackIndividualUpdates env k batch s.db.requests).1 }
        post := .afterFlush last } := by
  induction batch generalizing k s with
  | nil => exact absurd rfl hne
  | cons req rest ih =>
    have hstep : s.step E (.flushOne (!env.updateFails k)) = some { s with
        db := { s.db with
          requests := if env.updateFails k then s.db.requests
            else req.update (env.clock k) s.db.requests }
        post := if rest.isEmpty then .afterFlush last else .draining rest last } := by
      simp only [Sys.step, Sys.flushOne, hpost, hclock]
      cases env.updateFails k <;> rfl
    rw [List.length_cons, List.range'_succ, List.map_cons, Exec.run_cons]
    refine ⟨_, hstep, ?_⟩
    cases rest with
    | nil => rfl
    | cons r rest => exact ih (by simp) (k + 1) hclock rfl

/-- `flush_batch` as a call is what the steps of the system come to. -/
theorem run_flushBatch {E : Env} {env : FlushEnv} {batch : List EmailRequest} {s : Sys}
    {last : Bool} (hid : ∃ req ∈ batch, ∃ id, req.id = some id)
    (hnow : env.bulkNow = s.now) (hclock : ∀ k, env.clock k = s.now)
    (hbulk : env.bulk ≠ .unanswered) (hpost : s.post = .flushing batch last) :
    ∃ evs, Exec.run (Sys.step E) s evs = some { s with
      db := { s.db with requests := (flushBatch env batch s.db.requests).1 }
      post := .afterFlush last } := by
  obtain ⟨req, hreq, id, hid⟩ := hid
  obtain ⟨t', ht', -⟩ := bulkUpdateAll_spec env.bulkNow batch s.db.requests
  have hrowid : req.rowid = some id.toInt := by rw [EmailRequest.rowid, hid, Option.map_some]
  rw [flushBatch_eq hreq hrowid ht']
  cases hb : env.bulk with
  | ran =>
    refine ⟨[.flushBulk true], ?_⟩
    rw [hnow] at ht'
    simp [Exec.run, Sys.step, Sys.flushBulk, hpost, ht']
  | failed =>
    refine ⟨.flushBulk false ::
      (List.range' 0 batch.length).map fun j => .flushOne (!env.updateFails j), ?_⟩
    rw [Exec.run_cons]
    refine ⟨{ s with post := .draining batch last }, by simp [Sys.step, Sys.flushBulk, hpost], ?_⟩
    exact run_flushOne (List.ne_nil_of_mem hreq) 0 (s := { s with post := .draining batch last })
      hclock rfl
  | unanswered => exact absurd hb hbulk

end Ses
