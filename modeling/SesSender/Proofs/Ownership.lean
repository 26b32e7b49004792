import Mathlib.Tactic.Abel
import SesSender.Lib.Ledger
import SesSender.Proofs.Carried

/-! The system as a ledger: a row is an entry, its status the phase, the places
in memory the hands, the send channel the gate. -/

namespace Ses

open Calendar

/-- How a delivery ended, as its row records it. -/
structure Outcome where
  status : Int
  messageId : Option String
  error : Option String

def RequestRow.phase (row : RequestRow) : Ledger.Phase Outcome :=
  if row.status = EmailMessageStatus.created.asI32 then .waiting
  else if row.status = EmailMessageStatus.processed.asI32 then .taken
  else if row.status = EmailMessageStatus.stopped.asI32 then .stopped
  else .finished ⟨row.status, row.messageId, row.error⟩

def Sys.book (s : Sys) : Ledger.Book Int Outcome where
  phase id := (s.db.requests.get? id).map RequestRow.phase
  near := s.nearIds
  far := s.farIds
  accepted := (s.hist.accepted.filterMap (·.rowid) : List Int)

section Phase

variable {row : RequestRow}

theorem RequestRow.phase_eq_waiting :
    row.phase = .waiting ↔ row.status = EmailMessageStatus.created.asI32 := by
  unfold RequestRow.phase
  split_ifs <;> simp_all

theorem RequestRow.phase_eq_taken :
    row.phase = .taken ↔ row.status = EmailMessageStatus.processed.asI32 := by
  unfold RequestRow.phase
  split_ifs <;> simp_all [EmailMessageStatus.asI32]

theorem RequestRow.phase_eq_stopped :
    row.phase = .stopped ↔ row.status = EmailMessageStatus.stopped.asI32 := by
  unfold RequestRow.phase
  split_ifs <;> simp_all [EmailMessageStatus.asI32]

theorem RequestRow.phase_eq_finished {o : Outcome} :
    row.phase = .finished o ↔
      row.status ≠ EmailMessageStatus.created.asI32 ∧
      row.status ≠ EmailMessageStatus.processed.asI32 ∧
      row.status ≠ EmailMessageStatus.stopped.asI32 ∧
      o = ⟨row.status, row.messageId, row.error⟩ := by
  unfold RequestRow.phase
  split_ifs <;> simp_all [eq_comm]

end Phase

theorem Sys.book_phase_eq_some {s : Sys} {id : Int} {p : Ledger.Phase Outcome} :
    s.book.phase id = some p ↔ ∃ row, s.db.requests.get? id = some row ∧ row.phase = p :=
  Option.map_eq_some_iff

/-! ## The hands -/

/-- The rowid of a request, as what it adds to a hand. -/
def EmailRequest.ids (req : EmailRequest) : Multiset Int := (req.rowid.toList : List Int)

def idsOf (reqs : List EmailRequest) : Multiset Int := (reqs.filterMap (·.rowid) : List Int)

@[simp] theorem idsOf_nil : idsOf [] = 0 := rfl

@[simp] theorem idsOf_cons (req : EmailRequest) (reqs : List EmailRequest) :
    idsOf (req :: reqs) = req.ids + idsOf reqs := by
  cases h : req.rowid <;> simp [idsOf, EmailRequest.ids, h]

@[simp] theorem idsOf_append (reqs reqs' : List EmailRequest) :
    idsOf (reqs ++ reqs') = idsOf reqs + idsOf reqs' := by
  simp [idsOf]

theorem idsOf_perm {reqs reqs' : List EmailRequest} (h : reqs.Perm reqs') :
    idsOf reqs = idsOf reqs' :=
  Multiset.coe_eq_coe.2 (h.filterMap _)

theorem mem_idsOf {reqs : List EmailRequest} {id : Int} :
    id ∈ idsOf reqs ↔ ∃ req ∈ reqs, req.rowid = some id := by
  simp [idsOf]

@[simp] theorem EmailRequest.ids_markCreated (req : EmailRequest) : req.markCreated.ids = req.ids :=
  rfl

@[simp] theorem EmailRequest.ids_answered (req : EmailRequest)
    (result : Except SendEmailError String) : (req.answered result).ids = req.ids := by
  simp [EmailRequest.ids]

theorem Fresh.ids_eq {req : EmailRequest} (h : Fresh req) :
    ∃ id, req.rowid = some id ∧ req.ids = {id} := by
  obtain ⟨id, hid⟩ := h.id
  exact ⟨id.toInt, by simp [EmailRequest.rowid, hid],
    by simp [EmailRequest.ids, EmailRequest.rowid, hid]⟩

theorem Handler.coe_ids (h : Handler) :
    (h.ids : Multiset Int) = idsOf h.unsent + idsOf h.failed := by
  rw [← idsOf_append]
  rfl

theorem Sys.coe_nearIds (s : Sys) :
    (s.nearIds : Multiset Int) = (s.handlers.flatMap (·.ids) : List Int) +
      (s.schedulers.flatMap (·.ids) : List Int) := rfl

theorem Sys.coe_farIds (s : Sys) :
    (s.farIds : Multiset Int) = idsOf s.sendChan.queue + idsOf s.sender.held +
      idsOf (s.tasks.flatMap (·.unanswered)) + idsOf (s.tasks.flatMap (·.answers)) +
      idsOf s.postChan.queue + idsOf s.post.batch := by
  simp only [← idsOf_append]
  rfl

variable {E : Env} {s t : Sys} {e : Event}

theorem near_setHandler {i : ℕ} {h₀ : Handler} (hi : s.handlers[i]? = some h₀) :
    ∃ N : Multiset Int, (s.nearIds : Multiset Int) = h₀.ids + N ∧
      ∀ h, ((s.setHandler i h).nearIds : Multiset Int) = h.ids + N := by
  obtain ⟨rest, hrest, hset⟩ := Lists.flatMap_set (·.ids) hi
  refine ⟨(rest : List Int) + (s.schedulers.flatMap (·.ids) : List Int), ?_, fun h => ?_⟩
  · rw [Sys.coe_nearIds, Multiset.coe_eq_coe.2 hrest, ← Multiset.coe_add, add_assoc]
  · rw [Sys.coe_nearIds]
    simp only [Sys.setHandler]
    rw [Multiset.coe_eq_coe.2 (hset h), ← Multiset.coe_add, add_assoc]

theorem near_setScheduler {j : ℕ} {c₀ : Scheduler} (hj : s.schedulers[j]? = some c₀) :
    ∃ N : Multiset Int, (s.nearIds : Multiset Int) = c₀.ids + N ∧
      ∀ c, ((s.setScheduler j c).nearIds : Multiset Int) = c.ids + N := by
  obtain ⟨rest, hrest, hset⟩ := Lists.flatMap_set (·.ids) hj
  refine ⟨(rest : List Int) + (s.handlers.flatMap (·.ids) : List Int), ?_, fun c => ?_⟩
  · rw [Sys.coe_nearIds, Multiset.coe_eq_coe.2 hrest, ← Multiset.coe_add, add_comm, add_assoc]
  · rw [Sys.coe_nearIds]
    simp only [Sys.setScheduler]
    rw [Multiset.coe_eq_coe.2 (hset c), ← Multiset.coe_add, add_comm, add_assoc]

/-- The hands behind the gate when one task changes. -/
theorem far_setTask {k : ℕ} {task₀ : SendTask} (hk : s.tasks[k]? = some task₀) :
    ∃ N : Multiset Int,
      (s.farIds : Multiset Int) = idsOf task₀.unanswered + idsOf task₀.answers + N ∧
      ∀ task, ((s.setTask k task).farIds : Multiset Int) =
        idsOf task.unanswered + idsOf task.answers + N := by
  obtain ⟨us, hus, hsetu⟩ := Lists.flatMap_set (·.unanswered) hk
  obtain ⟨as, has, hseta⟩ := Lists.flatMap_set (·.answers) hk
  refine ⟨idsOf us + idsOf as + (idsOf s.sendChan.queue + idsOf s.sender.held +
    idsOf s.postChan.queue + idsOf s.post.batch), ?_, fun task => ?_⟩
  · rw [Sys.coe_farIds, idsOf_perm hus, idsOf_perm has, idsOf_append, idsOf_append]
    abel
  · rw [Sys.coe_farIds]
    simp only [Sys.setTask]
    rw [idsOf_perm (hsetu task), idsOf_perm (hseta task), idsOf_append, idsOf_append]
    abel

end Ses
