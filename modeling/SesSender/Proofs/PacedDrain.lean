import SesSender.Proofs.Acquire

/-! The limiter and the semaphore hold nothing up for good: with them, too, some
work can be done until all is quiet, and work alone comes to an end. -/

namespace Ses

open Calendar

variable {E : Env} {rate : Int32} {p q : Paced} {e : PacedEvent}

/-- Work of the system, a step of `acquire`, or what the waiting loop waits for. -/
def Paced.works (p : Paced) : PacedEvent → Bool
  | .sys e => e.works p.sys
  | .tryAcquire => true
  | .listen => true
  | .refill _ => p.phase = .waiting
  | .notify => p.phase = .waiting
  | .boot _ => false

/-- How far the loop is from its token. A tick it does not hear sets it back only
as long as there is no token. -/
def Paced.rank (p : Paced) : ℕ :=
  let token := 0 < p.limiter.bucket.tokens
  let updated := p.refill = .updated
  match p.phase with
  | .receiving => 0
  | .admitted => 0
  | .trying => if token then 1 else if updated then 8 else 5
  | .missed => if token then 4 else if updated then 7 else 4
  | .waiting => if updated then (if token then 2 else 6) else 3

def Paced.weight (p : Paced) : ℕ := 9 * p.sys.weight + p.rank

def PacedEvent.cost : PacedEvent → ℕ
  | .sys e => 9 * e.cost
  | _ => 0

theorem Paced.rank_le (p : Paced) : p.rank ≤ 8 := by
  unfold Paced.rank
  cases p.phase with
  | receiving => exact Nat.zero_le 8
  | admitted => exact Nat.zero_le 8
  | _ => simp only; split_ifs <;> omega

theorem Paced.Step.weighs (hs : p.Step E rate e q) (h : p.Inv rate) :
    (p.works e).toNat + q.weight ≤ p.weight + e.cost := by
  have hsys : ∀ {e : Event} {sys : Sys}, p.sys.step E e = some sys →
      (e.works p.sys).toNat + sys.weight ≤ p.sys.weight + e.cost :=
    fun step => (Sys.Step.of_step step).weighs
  cases hs with
  | @recv sys phase step =>
    have hle := hsys step
    have hrank := ({ p with sys, phase := .trying } : Paced).rank_le
    simp only [Paced.works, Paced.weight, PacedEvent.cost, Event.works, Event.cost,
      Bool.toNat_true] at hle ⊢
    omega
  | acquired phase token =>
    have hp : p.rank = 1 := by simp [Paced.rank, phase, token]
    simp only [Paced.works, Paced.weight, PacedEvent.cost, hp]
    simp [Paced.rank]
    omega
  | missed phase token =>
    simp only [Paced.works, Paced.weight, Paced.rank, PacedEvent.cost, phase, token]
    split_ifs <;> simp <;> omega
  | listen phase =>
    simp only [Paced.works, Paced.weight, Paced.rank, PacedEvent.cost, phase]
    split_ifs <;> simp <;> omega
  | refill nowMs sleeping =>
    have htoken := h.tokens_tickAt nowMs
    simp only [Paced.works, Paced.weight, Paced.rank, PacedEvent.cost, sleeping, htoken]
    cases p.phase with
    | waiting => simp; omega
    | _ => simp <;> split_ifs <;> omega
  | notify updated =>
    simp only [Paced.works, Paced.weight, Paced.rank, PacedEvent.cost, updated]
    cases p.phase <;> simp <;> split_ifs <;> omega
  | @spawned sys phase permit step =>
    have hle := hsys step
    simp only [Paced.works, Paced.weight, Paced.rank, PacedEvent.cost, Event.works, Event.cost,
      Bool.toNat_true, phase] at hle ⊢
    omega
  | @finished k ok sys step =>
    have hle := hsys step
    change _ + (9 * sys.weight + p.rank) ≤ 9 * p.sys.weight + p.rank + _
    simp only [Paced.works, PacedEvent.cost, Event.works, Event.cost, Bool.toNat_true] at hle ⊢
    omega
  | @senderStops sys step =>
    have hle := hsys step
    have hrank : ({ p with sys, phase := .receiving } : Paced).rank = 0 := rfl
    simp only [Paced.works, Paced.weight, PacedEvent.cost, Event.works, Event.cost,
      Bool.toNat_false, hrank] at hle ⊢
    omega
  | @boot sys nowMs step =>
    have hle := hsys step
    have hrank : (Paced.boot rate sys nowMs).rank = 0 := rfl
    simp only [Paced.works, Paced.weight, PacedEvent.cost, Event.works, Event.cost,
      Bool.toNat_false, hrank] at hle ⊢
    change 0 + (9 * sys.weight + 0) ≤ _
    omega
  | @other e sys unpaced step =>
    have hle := hsys step
    change (e.works p.sys).toNat + (9 * sys.weight + p.rank) ≤ 9 * p.sys.weight + p.rank + 9 * e.cost
    omega

theorem Paced.weighs (E : Env) (rate : Int32) : Exec.Weighs (Paced.step E rate) Paced.works
    (fun p => p.Inv rate ∧ Live p.sys) Paced.weight PacedEvent.cost where
  keeps h hi := by
    have hs := Paced.Step.of_step h
    exact ⟨hi.1.step hs, Exec.run_keeps (fun h hl => hl.step h) hs.project hi.2⟩
  weighs h hi := (Paced.Step.of_step h).weighs hi.1
  free := by
    intro s e hw
    cases e with
    | sys e => rw [PacedEvent.cost, Event.cost_of_works hw]
    | _ => rfl

/-! ## There is always a step to take -/

theorem Paced.step_unpaced {e : Event} (h : e.unpaced = true) :
    p.step E rate (.sys e) = (p.sys.step E e).map fun sys => { p with sys } := by
  cases e with
  | recv => cases h
  | spawnTask => cases h
  | postSend => cases h
  | senderStops => cases h
  | restart => cases h
  | _ => rfl

/-- What the tasks and the post-processor can do, no limit keeps them from. -/
theorem Paced.isSome_step_downstream {e : Event} (hd : e.downstream)
    (h : (p.sys.step E e).isSome = true) : (p.step E rate (.sys e)).isSome = true := by
  cases e with
  | postSend k ok => simpa only [Paced.step, Option.isSome_map] using h
  | callSes k => rw [Paced.step_unpaced rfl, Option.isSome_map]; exact h
  | sesReturn k calls => rw [Paced.step_unpaced rfl, Option.isSome_map]; exact h
  | postRecv elapsed => rw [Paced.step_unpaced rfl, Option.isSome_map]; exact h
  | postTimeout elapsed => rw [Paced.step_unpaced rfl, Option.isSome_map]; exact h
  | flushBulk ok => rw [Paced.step_unpaced rfl, Option.isSome_map]; exact h
  | flushOne ok => rw [Paced.step_unpaced rfl, Option.isSome_map]; exact h
  | _ => exact hd.elim

def Paced.Moves (E : Env) (rate : Int32) (p : Paced) : Prop :=
  ∃ e q, p.works e = true ∧ p.step E rate e = some q

theorem Paced.Moves.of {e : PacedEvent} (hw : p.works e = true)
    (hs : (p.step E rate e).isSome = true) : p.Moves E rate := by
  obtain ⟨q, hq⟩ := Option.isSome_iff_exists.1 hs
  exact ⟨e, q, hw, hq⟩

/-- Without a free permit some task can go on, or the post-processor for it. -/
theorem Paced.Inv.moves_tasks (h : p.Inv rate) (hl : Live p.sys)
    (hpost : 0 < E.postSendChannelBuffer) (hnone : p.permits = 0) : p.Moves E rate := by
  have hpos := maxPerSec_pos rate
  have hpermits := h.permits
  have hlive : 0 < p.sys.liveTasks := by omega
  obtain ⟨task, hm, hnot⟩ := List.countP_pos_iff.1 hlive
  obtain ⟨k, hk⟩ := List.mem_iff_getElem?.1 hm
  obtain ⟨e, t, hd, hw, hs, -⟩ := moves_task (E := E) hl hpost hk (by simpa using hnot)
  exact .of (e := .sys e) hw (Paced.isSome_step_downstream hd (by rw [hs]; rfl))

/-- A request in hand gets on: to its attempt, to the next tick, or into a task. -/
theorem Paced.Inv.moves_held (h : p.Inv rate) (hl : Live p.sys)
    (hpost : 0 < E.postSendChannelBuffer) {t : Sys} (hs : p.sys.step E .spawnTask = some t) :
    p.Moves E rate := by
  cases hp : p.phase with
  | receiving =>
    have hheld := h.phase.1 hp
    cases Sys.Step.of_step hs with
    | spawnTask sender => simp [sender, SenderLoop.held] at hheld
  | trying => exact .of (e := .tryAcquire) rfl (by simp [Paced.step, hp])
  | missed => exact .of (e := .listen) rfl (by simp [Paced.step, hp])
  | waiting =>
    cases hr : p.refill with
    | sleeping =>
      exact .of (e := .refill 0) (by simp [Paced.works, hp]) (by simp [Paced.step, hr])
    | updated => exact .of (e := .notify) (by simp [Paced.works, hp]) (by simp [Paced.step, hr])
  | admitted =>
    by_cases hpermit : 0 < p.permits
    · exact .of (e := .sys .spawnTask) rfl (by simp [Paced.step, hp, hpermit, hs])
    · exact h.moves_tasks hl hpost (by omega)

theorem Paced.Inv.moves (h : p.Inv rate) (hl : Live p.sys) (hsend : 0 < E.sendChannelBuffer)
    (hpost : 0 < E.postSendChannelBuffer) (hq : ¬ p.sys.Quiet) : p.Moves E rate := by
  obtain ⟨e, t, -, hw, hs, -⟩ := hl.moves hsend hpost hq
  have hsome : (p.sys.step E e).isSome = true := by rw [hs]; rfl
  by_cases hunpaced : e.unpaced = true
  · exact .of (e := .sys e) hw (by rw [Paced.step_unpaced hunpaced, Option.isSome_map]; exact hsome)
  cases e with
  | recv =>
    have hphase : p.phase = .receiving := by
      refine h.phase.2 ?_
      cases Sys.Step.of_step hs with
      | recv sender => rw [sender]; rfl
    exact .of (e := .sys .recv) hw (by simpa [Paced.step, hphase] using hsome)
  | spawnTask => exact h.moves_held hl hpost hs
  | postSend k ok =>
    exact .of (e := .sys (.postSend k ok)) hw (Paced.isSome_step_downstream trivial hsome)
  | senderStops => cases hw
  | restart => cases hw
  | _ => exact absurd rfl hunpaced

/-! ## Runs -/

section Runs

variable {now₀ : Instant} {nowMs₀ : ℕ} {evs : List PacedEvent}

/-- A request may have to wait for a token that a lost notification does not
announce, or for a permit, but never for good: work and ticks alone come to an
end, they end nowhere but where all is quiet, and they can get there. -/
theorem paced_never_stuck (hrun : PacedRun E rate now₀ nowMs₀ evs p)
    (hsend : 0 < E.sendChannelBuffer) (hpost : 0 < E.postSendChannelBuffer) :
    (∀ evs' q, Exec.run (Exec.only (Paced.step E rate) Paced.works) p evs' = some q →
      evs'.length + q.weight ≤ p.weight ∧
      ((∀ e, Exec.only (Paced.step E rate) Paced.works q e = none) → q.sys.Quiet)) ∧
    ∃ evs' q, Exec.run (Exec.only (Paced.step E rate) Paced.works) p evs' = some q ∧
      q.sys.Quiet := by
  have hI : p.Inv rate ∧ Live p.sys := ⟨hrun.inv, hrun.run.live⟩
  refine ⟨fun evs' q hq => ⟨(Paced.weighs E rate).length_le hq hI, fun hmax => ?_⟩,
    (Paced.weighs E rate).finishes (fun h hquiet => h.1.moves h.2 hsend hpost hquiet) hI⟩
  have hq' : q.Inv rate ∧ Live q.sys :=
    Exec.run_keeps (fun h hi => (Paced.weighs E rate).keeps h hi) (Exec.run_of_only hq) hI
  by_contra hquiet
  obtain ⟨e, r, hw, hs⟩ := hq'.1.moves hq'.2 hsend hpost hquiet
  have hsome := Exec.only_eq_some.2 ⟨hw, hs⟩
  rw [hmax e] at hsome
  cases hsome

theorem paced_never_stuck_sample : ∃ p evs' q, PacedRun sampleEnv 1 newYear 0 overtakenEvents p ∧
    Exec.run (Exec.only (Paced.step sampleEnv 1) Paced.works) p evs' = some q ∧ q.sys.Quiet := by
  obtain ⟨p, hp, -⟩ := Exec.exists_of_any (Paced.step sampleEnv 1)
    (Paced.boot 1 (Sys.init newYear) 0) overtakenEvents (fun _ => true) (by decide)
  obtain ⟨evs', q, hq, hquiet⟩ := (paced_never_stuck hp (by decide) (by decide)).2
  exact ⟨p, evs', q, hp, hq, hquiet⟩

end Runs

end Ses
