import SesSender.Proofs.Pacing

/-! What the token bucket does to the sender loop: how often an `acquire` misses,
and how many tasks start while the clock moves from one reading to another. -/

namespace Ses

open Calendar

variable {E : Env} {rate : Int32} {p q : Paced} {e : PacedEvent}

theorem maxPerSec_le (rate : Int32) : maxPerSec rate < 2 ^ 31 := by
  have := rate.toInt_lt
  unfold maxPerSec
  omega

/-- After an update by the refill task there is a token to take. -/
theorem Paced.Inv.tokens_tickAt (h : p.Inv rate) (nowMs : ℕ) :
    0 < (p.limiter.tickAt nowMs).bucket.tokens := by
  have hpos := maxPerSec_pos rate
  have hlt := maxPerSec_le rate
  have hmax := h.capacity
  have htokens := h.tokens
  have hceil := divCeil_pos hpos
  have hle := divCeil_le hpos
  change 0 < (p.limiter.bucket.apply (p.limiter.tickOp nowMs)).tokens
  unfold Limiter.tickOp
  split_ifs
  · change 0 < p.limiter.bucket.maxPerSec
    omega
  · simp only [TokenBucket.apply, TokenBucket.refill, hmax]
    split_ifs
    · rw [Nat.mod_eq_of_lt (by omega)]
      exact lt_min (by omega) hpos
    · omega

/-! ## Attempts that fail -/

/-- An attempt that finds the bucket empty. -/
def Paced.misses (p : Paced) : PacedEvent → Bool
  | .tryAcquire => p.limiter.bucket.tokens = 0
  | _ => false

def PacedEvent.isRecv : PacedEvent → Bool
  | .sys .recv => true
  | _ => false

/-- How often the `acquire` in progress may still miss. A notification on its way
may have been overtaken by the loop, and wakes it for nothing. -/
def Paced.missesLeft (p : Paced) : ℕ :=
  if 0 < p.limiter.bucket.tokens then 0
  else match p.phase with
  | .trying => 1 + if p.refill = .updated then 1 else 0
  | .missed => if p.refill = .updated then 1 else 0
  | .waiting => if p.refill = .updated then 1 else 0
  | _ => 0

theorem Paced.missesLeft_le (p : Paced) : p.missesLeft ≤ 2 := by
  unfold Paced.missesLeft
  split_ifs
  · omega
  · split <;> omega
  · split <;> omega

theorem Paced.missesLeft_of_tokens (h : 0 < p.limiter.bucket.tokens) : p.missesLeft = 0 := if_pos h

def PacedEvent.missCost (e : PacedEvent) : ℕ := if e.isRecv then 2 else 0

theorem Paced.Step.misses (hs : p.Step E rate e q) (h : p.Inv rate) :
    (p.misses e).toNat + q.missesLeft ≤ p.missesLeft + e.missCost := by
  cases hs with
  | recv => exact (Nat.zero_add _).trans_le ((Paced.missesLeft_le _).trans (Nat.le_add_left _ _))
  | acquired phase token =>
    have hmiss : p.misses .tryAcquire = false := by simpa [Paced.misses] using token.ne'
    have hq : ∀ l : Limiter, ({ p with limiter := l, phase := .admitted } : Paced).missesLeft = 0 := by
      intro l
      simp [Paced.missesLeft]
    rw [hmiss, hq]
    exact Nat.zero_le _
  | missed phase token =>
    simp only [Paced.misses, Paced.missesLeft, phase, token, decide_true, Bool.toNat_true]
    exact Nat.le_add_right _ _
  | listen phase =>
    simp only [Paced.misses, Paced.missesLeft, phase, Bool.toNat_false, Nat.zero_add]
    exact Nat.le_add_right _ _
  | refill nowMs =>
    rw [Paced.missesLeft_of_tokens (h.tokens_tickAt nowMs)]
    exact Nat.zero_le _
  | notify updated =>
    change 0 + _ ≤ p.missesLeft + 0
    unfold Paced.missesLeft
    by_cases htok : 0 < p.limiter.bucket.tokens
    · simp [htok]
    · cases p.phase <;> simp [htok, updated]
  | spawned =>
    have hq : ∀ (s : Sys) (n : ℕ),
        ({ p with sys := s, phase := .receiving, permits := n } : Paced).missesLeft = 0 := by
      intro s n
      simp [Paced.missesLeft]
    rw [hq]
    exact Nat.zero_le _
  | finished => exact (Nat.zero_add _).trans_le (Nat.le_add_right _ _)
  | senderStops =>
    have hq : ∀ s : Sys, ({ p with sys := s, phase := .receiving } : Paced).missesLeft = 0 := by
      intro s
      simp [Paced.missesLeft]
    rw [hq]
    exact Nat.zero_le _
  | boot nowMs =>
    rw [Paced.missesLeft_of_tokens (p := .boot rate _ nowMs) (maxPerSec_pos rate)]
    exact Nat.zero_le _
  | other => exact (Nat.zero_add _).trans_le (Nat.le_add_right _ _)

theorem Paced.weighs_misses (E : Env) (rate : Int32) :
    Exec.Weighs (Paced.step E rate) Paced.misses (Paced.Inv rate) Paced.missesLeft
      PacedEvent.missCost where
  keeps h hi := hi.step (Paced.Step.of_step h)
  weighs h hi := (Paced.Step.of_step h).misses hi
  free := by
    intro s e hw
    cases e with
    | tryAcquire => rfl
    | _ => cases hw

theorem sum_missCost (evs : List PacedEvent) :
    (evs.map PacedEvent.missCost).sum = 2 * evs.countP PacedEvent.isRecv := by
  induction evs with
  | nil => rfl
  | cons e evs ih =>
    rw [List.map_cons, List.sum_cons, ih, List.countP_cons, PacedEvent.missCost]
    split_ifs <;> omega

/-! ## How many tasks start -/

def PacedEvent.isSpawn : PacedEvent → Bool
  | .sys .spawnTask => true
  | _ => false

def PacedEvent.isRefill : PacedEvent → Bool
  | .refill _ => true
  | _ => false

/-- The process goes on, and the refill task reads the clock between `a` and `b`. -/
def PacedEvent.within (a b : ℕ) : PacedEvent → Bool
  | .refill nowMs => a ≤ nowMs && nowMs ≤ b
  | .boot _ => false
  | _ => true

/-- How many resets there can be until the clock shows `b`. -/
def Limiter.resetsLeft (l : Limiter) (a b : ℕ) : ℕ :=
  if l.lastRefillMs < a then (b - a) / 1000 + 1 else (b - l.lastRefillMs) / 1000

def Paced.startsLeft (M a b : ℕ) (p : Paced) : ℕ :=
  p.limiter.bucket.tokens + (if p.phase = .admitted then 1 else 0) +
    M * p.limiter.resetsLeft a b

def PacedEvent.startCost (M : ℕ) (e : PacedEvent) : ℕ := if e.isRefill then divCeil M 10 else 0

/-- A reset uses up one of those that are left: the reading that makes it is a
second past the one before. -/
theorem Limiter.resetsLeft_tickAt {l : Limiter} {a b nowMs : ℕ} (ha : a ≤ nowMs) (hb : nowMs ≤ b) :
    (if l.tickOp nowMs = .reset then 1 else 0) + (l.tickAt nowMs).resetsLeft a b ≤
      l.resetsLeft a b := by
  by_cases hreset : l.tickOp nowMs = .reset
  · have hlast : (l.tickAt nowMs).lastRefillMs = nowMs := if_pos hreset
    have hgap : nowMs - l.lastRefillMs ≥ 1000 := by
      by_contra hlt
      simp [Limiter.tickOp, hlt] at hreset
    rw [if_pos hreset, Limiter.resetsLeft, Limiter.resetsLeft, hlast, if_neg (by omega)]
    split_ifs <;> omega
  · have hlast : (l.tickAt nowMs).lastRefillMs = l.lastRefillMs := if_neg hreset
    rw [if_neg hreset, Limiter.resetsLeft, Limiter.resetsLeft, hlast, Nat.zero_add]

/-- A tick adds the refill's share, or uses up a reset. -/
theorem Paced.Inv.tick_le (h : p.Inv rate) {a b nowMs : ℕ} (ha : a ≤ nowMs) (hb : nowMs ≤ b) :
    (p.limiter.tickAt nowMs).bucket.tokens +
        maxPerSec rate * (p.limiter.tickAt nowMs).resetsLeft a b ≤
      p.limiter.bucket.tokens + maxPerSec rate * p.limiter.resetsLeft a b +
        divCeil (maxPerSec rate) 10 := by
  have hresets := Limiter.resetsLeft_tickAt (l := p.limiter) ha hb
  by_cases hreset : p.limiter.tickOp nowMs = .reset
  · rw [if_pos hreset] at hresets
    have htokens : (p.limiter.tickAt nowMs).bucket.tokens = maxPerSec rate := by
      change (p.limiter.bucket.apply (p.limiter.tickOp nowMs)).tokens = _
      rw [hreset]
      exact h.capacity
    have hmul := Nat.mul_le_mul_left (maxPerSec rate) hresets
    rw [Nat.mul_add, Nat.mul_one] at hmul
    omega
  · rw [if_neg hreset, Nat.zero_add] at hresets
    have hop : p.limiter.tickOp nowMs = .refill (divCeil (maxPerSec rate) 10) := by
      unfold Limiter.tickOp at hreset ⊢
      split_ifs at hreset ⊢ with hgap
      · exact absurd rfl hreset
      · rw [h.capacity]
    have htokens : (p.limiter.tickAt nowMs).bucket.tokens ≤
        p.limiter.bucket.tokens + divCeil (maxPerSec rate) 10 := by
      change (p.limiter.bucket.apply (p.limiter.tickOp nowMs)).tokens ≤ _
      rw [hop]
      simp only [TokenBucket.apply, TokenBucket.refill]
      split_ifs
      · exact (min_le_left _ _).trans (Nat.mod_le _ _)
      · exact Nat.le_add_right _ _
    have hmul := Nat.mul_le_mul_left (maxPerSec rate) hresets
    omega

theorem Paced.Step.starts {a b : ℕ} (hs : p.Step E rate e q) (h : p.Inv rate)
    (hw : e.within a b = true) : e.isSpawn.toNat + q.startsLeft (maxPerSec rate) a b ≤
      p.startsLeft (maxPerSec rate) a b + e.startCost (maxPerSec rate) := by
  have hsame : ∀ (sys : Sys) (n : ℕ) {ph : SenderPhase}, p.phase = ph → ph ≠ .admitted →
      ∀ ph', ph' ≠ .admitted →
        ({ p with sys, phase := ph', permits := n } : Paced).startsLeft (maxPerSec rate) a b =
          p.startsLeft (maxPerSec rate) a b := by
    intro sys n ph hp hne ph' hne'
    simp [Paced.startsLeft, hp, hne, hne']
  cases hs with
  | recv phase =>
    rw [hsame _ _ phase (by decide) .trying (by decide)]
    exact (Nat.zero_add _).trans_le (Nat.le_add_right _ _)
  | acquired phase token =>
    have hone := p.limiter.bucket.tryAcquire_tokens
    have hok : p.limiter.bucket.tryAcquire.1 = true := by simp [TokenBucket.tryAcquire, token]
    rw [hok, Bool.toNat_true] at hone
    change 1 + (p.limiter.bucket.apply .tryAcquire).tokens = _ at hone
    simp only [PacedEvent.isSpawn, PacedEvent.startCost, PacedEvent.isRefill, Paced.startsLeft,
      phase, Limiter.resetsLeft]
    simp
    omega
  | missed phase =>
    rw [hsame p.sys p.permits phase (by decide) .missed (by decide)]
    exact (Nat.zero_add _).trans_le (Nat.le_add_right _ _)
  | listen phase =>
    rw [hsame p.sys p.permits phase (by decide) .waiting (by decide)]
    exact (Nat.zero_add _).trans_le (Nat.le_add_right _ _)
  | refill nowMs =>
    simp only [PacedEvent.within, Bool.and_eq_true, decide_eq_true_eq] at hw
    have htick := h.tick_le hw.1 hw.2
    simp only [PacedEvent.isSpawn, PacedEvent.startCost, PacedEvent.isRefill, Paced.startsLeft,
      Bool.toNat_false, if_true]
    omega
  | notify =>
    simp only [PacedEvent.isSpawn, PacedEvent.startCost, PacedEvent.isRefill, Paced.startsLeft,
      Bool.toNat_false]
    by_cases hp : p.phase = .waiting
    · simp [hp]
    · simp [hp]
  | spawned phase =>
    simp only [PacedEvent.isSpawn, PacedEvent.startCost, PacedEvent.isRefill, Paced.startsLeft,
      phase]
    simp
    omega
  | finished => exact (Nat.zero_add _).trans_le (Nat.le_add_right _ _)
  | senderStops =>
    simp only [PacedEvent.isSpawn, PacedEvent.startCost, PacedEvent.isRefill, Paced.startsLeft,
      Bool.toNat_false]
    simp
  | boot => cases hw
  | @other e sys unpaced step =>
    have hspawn : (PacedEvent.sys e).isSpawn = false := by cases e <;> first | rfl | cases unpaced
    rw [hspawn]
    exact (Nat.zero_add _).trans_le (Nat.le_add_right _ _)

theorem Paced.weighs_starts (E : Env) (rate : Int32) (a b : ℕ) :
    Exec.Weighs (Exec.only (Paced.step E rate) fun _ => PacedEvent.within a b)
      (fun _ => PacedEvent.isSpawn) (Paced.Inv rate) (Paced.startsLeft (maxPerSec rate) a b)
      (PacedEvent.startCost (maxPerSec rate)) where
  keeps h hi := hi.step (Paced.Step.of_step (Exec.only_eq_some.1 h).2)
  weighs h hi := by
    obtain ⟨hw, hs⟩ := Exec.only_eq_some.1 h
    exact (Paced.Step.of_step hs).starts hi hw
  free := by
    intro s e hw
    cases e with
    | refill => cases hw
    | _ => rfl

theorem sum_startCost (M : ℕ) (evs : List PacedEvent) :
    (evs.map (PacedEvent.startCost M)).sum = divCeil M 10 * evs.countP PacedEvent.isRefill := by
  induction evs with
  | nil => rfl
  | cons e evs ih =>
    rw [List.map_cons, List.sum_cons, ih, List.countP_cons, PacedEvent.startCost]
    split_ifs
    · rw [Nat.mul_add, Nat.mul_one, Nat.add_comm]
    · rw [Nat.zero_add, Nat.add_zero]

theorem Paced.Inv.startsLeft_le (h : p.Inv rate) (a b : ℕ) :
    p.startsLeft (maxPerSec rate) a b ≤
      maxPerSec rate + 1 + maxPerSec rate * ((b - a) / 1000 + 1) := by
  have hresets : p.limiter.resetsLeft a b ≤ (b - a) / 1000 + 1 := by
    unfold Limiter.resetsLeft
    split_ifs
    · exact le_rfl
    · omega
  have hphase : (if p.phase = .admitted then 1 else 0) ≤ 1 := by split_ifs <;> omega
  exact Nat.add_le_add (Nat.add_le_add h.tokens hphase) (Nat.mul_le_mul_left _ hresets)

/-! ## Runs -/

section Runs

variable {now₀ : Instant} {nowMs₀ : ℕ} {evs : List PacedEvent}

/-- However the loop and the refill task interleave, `acquire` misses twice at
most: while it waits nobody else takes a token, so that of the notifications that
wake it only the first can be stale. -/
theorem attempts_missed (hrun : PacedRun E rate now₀ nowMs₀ evs p) :
    Exec.worked (Paced.step E rate) Paced.misses (Paced.boot rate (Sys.init now₀) nowMs₀) evs ≤
      2 * evs.countP PacedEvent.isRecv ∧
    ∀ evs' q, Exec.run (Paced.step E rate) p evs' = some q →
      evs'.countP PacedEvent.isRecv = 0 →
      Exec.worked (Paced.step E rate) Paced.misses p evs' ≤ 2 := by
  refine ⟨?_, fun evs' q hq hnone => ?_⟩
  · have hle := (Paced.weighs_misses E rate).worked_le hrun (.boot rate _ nowMs₀ rfl rfl)
    have hboot : (Paced.boot rate (Sys.init now₀) nowMs₀).missesLeft = 0 :=
      Paced.missesLeft_of_tokens (maxPerSec_pos rate)
    rw [sum_missCost, hboot] at hle
    omega
  · have hle := (Paced.weighs_misses E rate).worked_le hq hrun.inv
    have hleft := p.missesLeft_le
    rw [sum_missCost, hnone] at hle
    omega

/-- Three mails wait for two tokens. The second is taken between the update of
the bucket and the notification, which then wakes the loop for nothing. -/
def overtakenEvents : List PacedEvent :=
  ((List.range 3).flatMap fun i =>
    .request (sampleMail "a" none) :: saving i ++ [.handOff i .ok]).map .sys ++
  [.sys .recv, .tryAcquire, .sys .spawnTask, .refill 100,
    .sys .recv, .tryAcquire, .sys .spawnTask, .sys .recv]

theorem attempts_missed_sample : ∃ p q, PacedRun sampleEnv 1 newYear 0 overtakenEvents p ∧
    Exec.run (Paced.step sampleEnv 1) p [.tryAcquire, .listen, .notify, .tryAcquire] = some q ∧
    Exec.worked (Paced.step sampleEnv 1) Paced.misses p
      [.tryAcquire, .listen, .notify, .tryAcquire] = 2 ∧
    Exec.worked (Paced.step sampleEnv 1) Paced.misses p
      [.tryAcquire, .listen, .notify, .tryAcquire] ≤ 2 := by
  obtain ⟨p, hp, h⟩ := Exec.exists_of_any (Paced.step sampleEnv 1)
    (Paced.boot 1 (Sys.init newYear) 0) overtakenEvents
    (fun p => (Exec.run (Paced.step sampleEnv 1) p
        [.tryAcquire, .listen, .notify, .tryAcquire]).isSome &&
      decide (Exec.worked (Paced.step sampleEnv 1) Paced.misses p
        [.tryAcquire, .listen, .notify, .tryAcquire] = 2)) (by decide)
  rw [Bool.and_eq_true, decide_eq_true_eq, Option.isSome_iff_exists] at h
  obtain ⟨⟨q, hq⟩, htwo⟩ := h
  exact ⟨p, q, hp, hq, htwo, (attempts_missed hp).2 _ q hq rfl⟩

/-- While the refill task reads its clock between `a` and `b`, whatever the clock
does in between and however often the task runs: the full bucket, one request
past it already, one bucket for each second and its share for each tick. -/
theorem starts_bounded (hrun : PacedRun E rate now₀ nowMs₀ evs p) {a b : ℕ}
    {evs' : List PacedEvent} (hq : Exec.run (Paced.step E rate) p evs' = some q)
    (hwithin : ∀ e ∈ evs', e.within a b = true) :
    evs'.countP PacedEvent.isSpawn ≤
      maxPerSec rate + 1 + maxPerSec rate * ((b - a) / 1000 + 1) +
        divCeil (maxPerSec rate) 10 * evs'.countP PacedEvent.isRefill := by
  have honly := Exec.run_only_of_forall hq hwithin
  have hle := (Paced.weighs_starts E rate a b).worked_le honly hrun.inv
  have hleft := hrun.inv.startsLeft_le a b
  rw [Exec.worked_eq_countP honly, sum_startCost] at hle
  omega

/-- A second later the third mail gets its token, and the permit of the first. -/
def laterEvents : List PacedEvent :=
  [.notify, .refill 1200, .tryAcquire, .sys (.callSes 0), .sys (.sesReturn 0 [.ok none]),
    .sys (.postSend 0 true), .sys .spawnTask]

theorem starts_bounded_sample : ∃ p q, PacedRun sampleEnv 1 newYear 0 overtakenEvents p ∧
    Exec.run (Paced.step sampleEnv 1) p laterEvents = some q ∧
    laterEvents.countP PacedEvent.isSpawn = 1 ∧ laterEvents.countP PacedEvent.isSpawn ≤ 4 := by
  obtain ⟨p, hp, h⟩ := Exec.exists_of_any (Paced.step sampleEnv 1)
    (Paced.boot 1 (Sys.init newYear) 0) overtakenEvents
    (fun p => (Exec.run (Paced.step sampleEnv 1) p laterEvents).isSome) (by decide)
  obtain ⟨q, hq⟩ := Option.isSome_iff_exists.1 h
  exact ⟨p, q, hp, hq, rfl, starts_bounded (a := 1200) (b := 1200) hp hq (by decide)⟩

end Runs

end Ses
