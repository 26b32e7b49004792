import Mathlib.Tactic.Ring
import SesSender.Spec.Basic
import SesSender.Spec.TokenBucket

/-! How many sends the rate limiter lets through. Every tenth tick resets the
bucket, and the nine refills between two resets are never taken off again. -/

namespace Ses

variable {b : TokenBucket} {l : Limiter}

/-! ## Accounting -/

/-- What an update adds at most. -/
def BucketOp.added (M : ℕ) : BucketOp → ℕ
  | .tryAcquire => 0
  | .refill amount => amount
  | .reset => M

@[simp] theorem TokenBucket.maxPerSec_apply (b : TokenBucket) (op : BucketOp) :
    (b.apply op).maxPerSec = b.maxPerSec := by
  cases op with
  | tryAcquire => unfold apply tryAcquire; split_ifs <;> rfl
  | refill amount => unfold apply refill; split_ifs <;> rfl
  | reset => rfl

theorem TokenBucket.tryAcquire_tokens (b : TokenBucket) :
    b.tryAcquire.1.toNat + b.tryAcquire.2.tokens = b.tokens := by
  unfold tryAcquire
  split_ifs with h
  · change 1 + (b.tokens - 1) = b.tokens
    omega
  · change 0 + b.tokens = b.tokens
    omega

/-- What went through and what is left came in by some update. -/
theorem TokenBucket.accounting (b : TokenBucket) (ops : List BucketOp) :
    b.acquired ops + (b.run ops).tokens ≤
      b.tokens + (ops.map (BucketOp.added b.maxPerSec)).sum := by
  induction ops generalizing b with
  | nil => simp [acquired, run]
  | cons op ops ih =>
    have hrest := ih (b.apply op)
    rw [maxPerSec_apply] at hrest
    rw [List.map_cons, List.sum_cons]
    change b.acquired (op :: ops) + ((b.apply op).run ops).tokens ≤ _
    cases op with
    | tryAcquire =>
      have hone := b.tryAcquire_tokens
      change b.tryAcquire.1.toNat + (b.apply .tryAcquire).acquired ops + _ ≤ _
      change b.tryAcquire.1.toNat + (b.apply .tryAcquire).tokens = _ at hone
      simp only [BucketOp.added]
      omega
    | refill amount =>
      have hle : (b.refill amount).tokens ≤ b.tokens + amount := by
        unfold refill
        split_ifs
        · exact (min_le_left _ _).trans (Nat.mod_le _ _)
        · omega
      change (b.refill amount).acquired ops + _ ≤ _
      change (b.refill amount).acquired ops + _ ≤ (b.refill amount).tokens + _ at hrest
      simp only [BucketOp.added]
      omega
    | reset =>
      change b.reset.acquired ops + _ ≤ _
      change b.reset.acquired ops + _ ≤ b.maxPerSec + _ at hrest
      simp only [BucketOp.added]
      omega

theorem TokenBucket.tokens_apply_le (op : BucketOp) (h : b.tokens ≤ b.maxPerSec) :
    (b.apply op).tokens ≤ b.maxPerSec := by
  cases op with
  | tryAcquire =>
    have hone := b.tryAcquire_tokens
    change b.tryAcquire.2.tokens ≤ _
    omega
  | refill amount =>
    unfold apply refill
    split_ifs
    · exact min_le_right _ _
    · exact h
  | reset => exact le_rfl

theorem TokenBucket.run_maxPerSec (b : TokenBucket) (ops : List BucketOp) :
    (b.run ops).maxPerSec = b.maxPerSec := by
  induction ops generalizing b with
  | nil => rfl
  | cons op ops ih => exact (ih (b.apply op)).trans (b.maxPerSec_apply op)

theorem TokenBucket.tokens_run_le (h : b.tokens ≤ b.maxPerSec) (ops : List BucketOp) :
    (b.run ops).tokens ≤ b.maxPerSec := by
  induction ops generalizing b with
  | nil => exact h
  | cons op ops ih =>
    have hop := tokens_apply_le op h
    rw [← b.maxPerSec_apply op] at hop ⊢
    exact ih hop

theorem TokenBucket.tryAcquire_eq_false (b : TokenBucket) :
    b.tryAcquire.1 = false ↔ b.tokens = 0 := by
  unfold tryAcquire
  split_ifs with h
  · simpa using h.ne'
  · simpa using h

theorem divCeil_pos {M : ℕ} (hM : 1 ≤ M) : 1 ≤ divCeil M 10 := by
  unfold divCeil
  split_ifs <;> omega

theorem divCeil_le {M : ℕ} (hM : 1 ≤ M) : divCeil M 10 ≤ M := by
  unfold divCeil
  split_ifs <;> omega

/-! ## Tasks sharing the bucket -/

/-- What the updates of the tasks add at most, by kind. -/
theorem sum_added_tasks (M : ℕ) (steps : List TaskStep) :
    ((taskUpdates M steps).map (BucketOp.added M)).sum =
      divCeil M 10 * (steps.map (·.op)).count .refill + M * (steps.map (·.op)).count .reset := by
  induction steps with
  | nil => rfl
  | cons s steps ih =>
    have hcons : taskUpdates M (s :: steps) = s.op.update M :: taskUpdates M steps := rfl
    rw [hcons, List.map_cons, List.sum_cons, ih, List.map_cons, List.count_cons, List.count_cons]
    cases s.op with
    | tryAcquire => simp [TaskOp.update, BucketOp.added]
    | refill => simp [TaskOp.update, BucketOp.added]; ring
    | reset => simp [TaskOp.update, BucketOp.added]; ring

/-- What holds of a bucket of capacity `M` after the updates `steps`. -/
structure TokenBucket.Accounted (M : ℕ) (steps : List TaskStep) (b : TokenBucket) : Prop where
  tokens_le : b.tokens ≤ M
  /-- the addition of the next refill does not wrap -/
  add_lt : b.tokens + divCeil M 10 < 2 ^ 64
  refused_iff : b.tryAcquire.1 = false ↔ b.tokens = 0
  /-- nor does the subtraction of the next acquisition -/
  taken : b.tryAcquire.1 = true → b.tryAcquire.2.tokens + 1 = b.tokens
  acquired_le : (TokenBucket.new M).acquired (taskUpdates M steps) + b.tokens ≤
    M + divCeil M 10 * (steps.map (·.op)).count .refill + M * (steps.map (·.op)).count .reset

/-- However the tasks interleave, the bucket never holds more than its capacity
and never gives out more than was put in. -/
theorem TokenBucket.tasks_accounted {M : ℕ} (hM : 1 ≤ M) (hfit : (M : Int) ≤ i32Max)
    (steps : List TaskStep) :
    ((TokenBucket.new M).run (taskUpdates M steps)).Accounted M steps := by
  have hle : ((TokenBucket.new M).run (taskUpdates M steps)).tokens ≤ M :=
    tokens_run_le le_rfl _
  have hacc := (TokenBucket.new M).accounting (taskUpdates M steps)
  have hsum := sum_added_tasks M steps
  have hceil := divCeil_le hM
  generalize (TokenBucket.new M).run (taskUpdates M steps) = b at hle hacc ⊢
  refine ⟨hle, ?_, b.tryAcquire_eq_false, fun hok => ?_, ?_⟩
  · unfold i32Max at hfit
    omega
  · have hone := b.tryAcquire_tokens
    rw [hok, Bool.toNat_true] at hone
    omega
  · change _ ≤ M + _ at hacc
    change _ ≤ M + (List.map (BucketOp.added M) _).sum at hacc
    omega

/-- Two tasks drain a bucket of one token; the loser is served after the refill. -/
theorem TokenBucket.tasks_accounted_two :
    ((TokenBucket.new 1).run (taskUpdates 1
      [⟨0, .tryAcquire⟩, ⟨1, .tryAcquire⟩, ⟨2, .refill⟩, ⟨1, .tryAcquire⟩])).Accounted 1
      [⟨0, .tryAcquire⟩, ⟨1, .tryAcquire⟩, ⟨2, .refill⟩, ⟨1, .tryAcquire⟩] :=
  tasks_accounted le_rfl (by decide) _

/-! ## Ticks -/

/-- `j` ticks since the last reset. -/
def Limiter.InPhase (l : Limiter) (j : ℕ) : Prop :=
  j ≤ 9 ∧ l.nowMs = l.lastRefillMs + TOKEN_REFILL_INTERVAL_MS * j

/-- What `n` ticks from phase `j` on bring in at most. -/
def credit (M c j n : ℕ) : ℕ := c * (n - (j + n) / 10) + M * ((j + n) / 10)

theorem credit_refill (M c : ℕ) {j : ℕ} (hj : j < 9) (n : ℕ) :
    credit M c j (n + 1) = c + credit M c (j + 1) n := by
  have hsum : j + (n + 1) = j + 1 + n := by omega
  have hsub : n + 1 - (j + 1 + n) / 10 = n - (j + 1 + n) / 10 + 1 := by omega
  rw [credit, credit, hsum, hsub]
  ring

theorem credit_reset (M c n : ℕ) : credit M c 9 (n + 1) = M + credit M c 0 n := by
  have hdiv : (9 + (n + 1)) / 10 = (0 + n) / 10 + 1 := by omega
  have hsub : n + 1 - ((0 + n) / 10 + 1) = n - (0 + n) / 10 := by omega
  rw [credit, credit, hdiv, hsub]
  ring

theorem credit_le {M c j n k : ℕ} (hc : c ≤ M) (hj : j ≤ 9) (hn : n ≤ 10 * k) :
    credit M c j n ≤ M * k + 9 * k * c := by
  obtain ⟨d, rfl⟩ := Nat.exists_eq_add_of_le hc
  have hr : (j + n) / 10 ≤ k := by omega
  have hle : n - (j + n) / 10 + (j + n) / 10 ≤ 10 * k := by omega
  calc credit (c + d) c j n
      = c * (n - (j + n) / 10 + (j + n) / 10) + d * ((j + n) / 10) := by unfold credit; ring
    _ ≤ c * (10 * k) + d * k := Nat.add_le_add (Nat.mul_le_mul_left c hle) (Nat.mul_le_mul_left d hr)
    _ = (c + d) * k + 9 * k * c := by ring

theorem Limiter.inPhase_start (M startMs : ℕ) : (Limiter.start M startMs).InPhase 0 :=
  ⟨by omega, rfl⟩

theorem Limiter.InPhase.acquire {j : ℕ} (h : l.InPhase j) : (l.step .acquire).InPhase j := h

/-- The first nine ticks after a reset refill. -/
theorem Limiter.InPhase.refill {j : ℕ} (h : l.InPhase j) (hj : j < 9) :
    l.op .tick = .refill (divCeil l.bucket.maxPerSec 10) ∧ (l.step .tick).InPhase (j + 1) := by
  obtain ⟨-, hnow⟩ := h
  have hop : l.op .tick = .refill (divCeil l.bucket.maxPerSec 10) := by
    unfold op tickOp TOKEN_REFILL_INTERVAL_MS at *
    rw [if_neg (by omega)]
  refine ⟨hop, by omega, ?_⟩
  change l.nowMs + _ = (if l.op .tick = .reset then _ else _) + _
  rw [if_neg (by rw [hop]; simp), hnow]
  ring

/-- The tenth one resets. -/
theorem Limiter.InPhase.reset (h : l.InPhase 9) :
    l.op .tick = .reset ∧ (l.step .tick).InPhase 0 := by
  obtain ⟨-, hnow⟩ := h
  have hop : l.op .tick = .reset := by
    unfold op tickOp TOKEN_REFILL_INTERVAL_MS at *
    rw [if_pos (by omega)]
  refine ⟨hop, by omega, ?_⟩
  change l.nowMs + _ = (if l.op .tick = .reset then _ else _) + _
  rw [if_pos hop]
  rfl

@[simp] theorem Limiter.bucket_step (l : Limiter) (e : RateEvent) :
    (l.step e).bucket = l.bucket.apply (l.op e) := by
  cases e <;> rfl

/-- The updates along a run bring in what its ticks bring in. -/
theorem Limiter.sum_added {j : ℕ} (h : l.InPhase j) (evs : List RateEvent) :
    ((l.ops evs).map (BucketOp.added l.bucket.maxPerSec)).sum =
      credit l.bucket.maxPerSec (divCeil l.bucket.maxPerSec 10) j (evs.count .tick) := by
  induction evs generalizing l j with
  | nil =>
    have hj := h.1
    simp only [ops, credit, List.map_nil, List.sum_nil, List.count_nil, Nat.add_zero]
    rw [Nat.div_eq_of_lt (by omega)]
    rfl
  | cons e evs ih =>
    rw [ops, List.map_cons, List.sum_cons]
    cases e with
    | acquire =>
      have hrest := ih h.acquire
      rw [bucket_step, TokenBucket.maxPerSec_apply] at hrest
      rw [hrest, List.count_cons_of_ne (by decide)]
      exact Nat.zero_add _
    | tick =>
      rw [List.count_cons_self]
      by_cases hj : j < 9
      · obtain ⟨hop, hphase⟩ := h.refill hj
        have hrest := ih hphase
        rw [bucket_step, TokenBucket.maxPerSec_apply] at hrest
        rw [hrest, hop, credit_refill _ _ hj]
        rfl
      · obtain rfl : j = 9 := by have := h.1; omega
        obtain ⟨hop, hphase⟩ := h.reset
        have hrest := ih hphase
        rw [bucket_step, TokenBucket.maxPerSec_apply] at hrest
        rw [hrest, hop, credit_reset]
        rfl

/-! ## Windows -/

/-- What holds of the limiter at any time of a run. -/
theorem Limiter.run_phase (evs : List RateEvent) {j : ℕ} (hj : l.InPhase j)
    (hle : l.bucket.tokens ≤ l.bucket.maxPerSec) :
    (∃ j, (l.run evs).InPhase j) ∧ (l.run evs).bucket.maxPerSec = l.bucket.maxPerSec ∧
      (l.run evs).bucket.tokens ≤ l.bucket.maxPerSec := by
  induction evs generalizing l j with
  | nil => exact ⟨⟨j, hj⟩, rfl, hle⟩
  | cons e evs ih =>
    have hphase : ∃ j, (l.step e).InPhase j := by
      cases e with
      | acquire => exact ⟨j, hj.acquire⟩
      | tick =>
        by_cases hlt : j < 9
        · exact ⟨_, (hj.refill hlt).2⟩
        · obtain rfl : j = 9 := by have := hj.1; omega
          exact ⟨_, hj.reset.2⟩
    obtain ⟨j', hj'⟩ := hphase
    have hmax : (l.step e).bucket.maxPerSec = l.bucket.maxPerSec := by
      rw [bucket_step, TokenBucket.maxPerSec_apply]
    have hle' : (l.step e).bucket.tokens ≤ (l.step e).bucket.maxPerSec := by
      rw [hmax, bucket_step]
      exact TokenBucket.tokens_apply_le _ hle
    have hrest := ih hj' hle'
    rw [hmax] at hrest
    exact hrest

/-- The most a window of `k` seconds lets through. -/
theorem Limiter.window_le {M k : ℕ} (hM : 1 ≤ M) (startMs : ℕ) (before window : List RateEvent)
    (hticks : window.count .tick ≤ 10 * k) :
    ((Limiter.start M startMs).run before).acquired window ≤
      M * (k + 1) + 9 * k * divCeil M 10 := by
  obtain ⟨⟨j, hj⟩, hmax, hle⟩ := (Limiter.start M startMs).run_phase before
    (Limiter.inPhase_start M startMs) le_rfl
  generalize (Limiter.start M startMs).run before = l at hj hmax hle
  change l.bucket.maxPerSec = M at hmax
  change l.bucket.tokens ≤ M at hle
  have hacc := l.bucket.accounting (l.ops window)
  rw [l.sum_added hj, hmax] at hacc
  have hcredit := credit_le (divCeil_le hM) hj.1 hticks
  calc l.acquired window ≤ l.bucket.tokens + credit M (divCeil M 10) j (window.count .tick) :=
        (Nat.le_add_right _ _).trans hacc
    _ ≤ M + (M * k + 9 * k * divCeil M 10) := Nat.add_le_add hle hcredit
    _ = M * (k + 1) + 9 * k * divCeil M 10 := by ring

/-! ## Draining the bucket at every tick -/

def drain (M : ℕ) : List RateEvent := List.replicate M .acquire

/-- `n` ticks, everything acquired after each of them. -/
def rounds (M : ℕ) : ℕ → List RateEvent
  | 0 => []
  | n + 1 => .tick :: drain M ++ rounds M n

theorem count_drain (M : ℕ) : (drain M).count .tick = 0 := by
  simp [drain, List.count_replicate]

theorem count_rounds (M n : ℕ) : (rounds M n).count .tick = n := by
  induction n with
  | zero => rfl
  | succ n ih =>
    rw [rounds, List.count_append, List.count_cons_self, count_drain, ih]
    omega

def Limiter.drained (l : Limiter) : Limiter :=
  { l with bucket := { l.bucket with tokens := 0 } }

theorem Limiter.acquired_drain {M : ℕ} (hM : l.bucket.tokens ≤ M) (evs : List RateEvent) :
    l.acquired (drain M ++ evs) = l.bucket.tokens + l.drained.acquired evs := by
  induction M generalizing l with
  | zero =>
    have h0 : l.bucket.tokens = 0 := by omega
    have hl : l.drained = l := by unfold drained; rw [← h0]
    rw [hl, h0, Nat.zero_add]
    rfl
  | succ M ih =>
    have hone := l.bucket.tryAcquire_tokens
    have hstep : l.acquired (drain (M + 1) ++ evs) =
        l.bucket.tryAcquire.1.toNat + (l.step .acquire).acquired (drain M ++ evs) := rfl
    have hbucket : (l.step .acquire).bucket = l.bucket.tryAcquire.2 := rfl
    have hdrained : (l.step .acquire).drained = l.drained := by
      unfold drained step
      simp only [TokenBucket.maxPerSec_apply]
    have hle : (l.step .acquire).bucket.tokens ≤ M := by
      rw [hbucket]
      unfold TokenBucket.tryAcquire
      split_ifs with h
      · change l.bucket.tokens - 1 ≤ M
        omega
      · change l.bucket.tokens ≤ M
        omega
    rw [hstep, ih hle, hdrained, hbucket]
    omega

theorem Limiter.acquired_tick (evs : List RateEvent) :
    l.acquired (.tick :: evs) = (l.step .tick).acquired evs := by
  change l.bucket.acquired (l.op .tick :: (l.step .tick).ops evs) = _
  have hop : l.op .tick = .reset ∨ ∃ a, l.op .tick = .refill a := by
    change l.tickOp _ = _ ∨ ∃ a, l.tickOp _ = _
    unfold tickOp
    split_ifs
    · exact Or.inl rfl
    · exact Or.inr ⟨_, rfl⟩
  unfold Limiter.acquired
  rw [bucket_step]
  rcases hop with hop | ⟨a, hop⟩ <;> rw [hop] <;> rfl

/-- Every tick's credit goes through when the bucket is drained after it. -/
theorem Limiter.acquired_rounds {M j : ℕ} (hM : 1 ≤ M) (hfit : M < 2 ^ 64)
    (hmax : l.bucket.maxPerSec = M) (hempty : l.bucket.tokens = 0) (hj : l.InPhase j) (n : ℕ) :
    l.acquired (rounds M n) = credit M (divCeil M 10) j n := by
  induction n generalizing l j with
  | zero =>
    have hlt := hj.1
    rw [credit, Nat.add_zero, Nat.div_eq_of_lt (by omega)]
    rfl
  | succ n ih =>
    have hc := divCeil_le hM
    rw [rounds, List.cons_append, acquired_tick]
    by_cases hlt : j < 9
    · obtain ⟨hop, hphase⟩ := hj.refill hlt
      have htokens : (l.step .tick).bucket.tokens = divCeil M 10 := by
        rw [bucket_step, hop, hmax]
        change (l.bucket.refill (divCeil M 10)).tokens = _
        unfold TokenBucket.refill
        rw [if_pos (by omega)]
        change min ((l.bucket.tokens + divCeil M 10) % 2 ^ 64) l.bucket.maxPerSec = _
        rw [hempty, hmax, Nat.zero_add, Nat.mod_eq_of_lt (by omega), min_eq_left hc]
      have hmax' : (l.step .tick).drained.bucket.maxPerSec = M := by
        change (l.step .tick).bucket.maxPerSec = M
        rw [bucket_step, TokenBucket.maxPerSec_apply, hmax]
      rw [acquired_drain (by omega), ih hmax' rfl hphase, htokens, credit_refill _ _ hlt]
    · obtain rfl : j = 9 := by have := hj.1; omega
      obtain ⟨hop, hphase⟩ := hj.reset
      have htokens : (l.step .tick).bucket.tokens = M := by
        rw [bucket_step, hop]
        exact hmax
      have hmax' : (l.step .tick).drained.bucket.maxPerSec = M := by
        change (l.step .tick).bucket.maxPerSec = M
        rw [bucket_step, TokenBucket.maxPerSec_apply, hmax]
      rw [acquired_drain (by omega), ih hmax' rfl hphase, htokens, credit_reset]

theorem maxPerSec_pos (maxSendPerSecond : Int32) : 1 ≤ maxPerSec maxSendPerSecond := by
  unfold maxPerSec
  omega

theorem maxPerSec_lt (maxSendPerSecond : Int32) : maxPerSec maxSendPerSecond < 2 ^ 64 := by
  have h := maxSendPerSecond.toInt_lt
  unfold maxPerSec
  omega

/-- A full bucket drained at once, and again after each later tick of a window. -/
theorem Limiter.acquired_window {M k : ℕ} (hM : 1 ≤ M) (hfit : M < 2 ^ 64) (hk : 1 ≤ k)
    (startMs : ℕ) : ((Limiter.start M startMs).run [.tick]).acquired
      (drain M ++ rounds M (10 * k - 1)) = M * (k + 1) + (9 * k - 1) * divCeil M 10 := by
  obtain ⟨hop, hphase⟩ := (Limiter.inPhase_start M startMs).refill (by omega)
  have hfull : ((Limiter.start M startMs).step .tick).bucket = .new M := by
    rw [Limiter.bucket_step, hop]
    unfold TokenBucket.apply TokenBucket.refill
    exact if_neg (lt_irrefl M)
  have hmax : ((Limiter.start M startMs).step .tick).drained.bucket.maxPerSec = M := by
    change ((Limiter.start M startMs).step .tick).bucket.maxPerSec = M
    rw [hfull]
    rfl
  have hrounds := Limiter.acquired_rounds hM hfit hmax rfl hphase (10 * k - 1)
  change ((Limiter.start M startMs).step .tick).acquired _ = _
  rw [Limiter.acquired_drain (by rw [hfull]; exact le_rfl), hrounds, hfull, credit,
    show (0 + 1 + (10 * k - 1)) / 10 = k by omega,
    show 10 * k - 1 - k = 9 * k - 1 by omega]
  change M + _ = _
  ring

theorem count_window {M k : ℕ} (hk : 1 ≤ k) :
    (drain M ++ rounds M (10 * k - 1)).count .tick < 10 * k := by
  rw [List.count_append, count_drain, count_rounds, Nat.zero_add]
  omega

/-- Under no setting and for no length of window is the rate respected: drained
at every tick, the bucket lets `9 * k - 1` refills too many through, and the
window takes less than `k` seconds. -/
theorem rate_exceeded (maxSendPerSecond : Int32) (k : ℕ) (hk : 1 ≤ k) (startMs : ℕ) :
    ¬ RateRespected (maxPerSec maxSendPerSecond) k ∧
    ∃ before window : List RateEvent, window.count .tick < 10 * k ∧
      ((Limiter.start (maxPerSec maxSendPerSecond) startMs).run before).acquired window =
        maxPerSec maxSendPerSecond * (k + 1) +
          (9 * k - 1) * divCeil (maxPerSec maxSendPerSecond) 10 ∧
      maxPerSec maxSendPerSecond * (k + 1) <
        ((Limiter.start (maxPerSec maxSendPerSecond) startMs).run before).acquired window := by
  have hM := maxPerSec_pos maxSendPerSecond
  have hfit := maxPerSec_lt maxSendPerSecond
  generalize maxPerSec maxSendPerSecond = M at hM hfit ⊢
  have hmore : 0 < (9 * k - 1) * divCeil M 10 :=
    Nat.mul_pos (by omega) (divCeil_pos hM)
  have hwindow := Limiter.acquired_window hM hfit hk startMs
  have hticks := count_window (M := M) hk
  refine ⟨fun h => ?_, [.tick], drain M ++ rounds M (10 * k - 1), hticks, hwindow, ?_⟩
  · have := h startMs [.tick] (drain M ++ rounds M (10 * k - 1)) hticks.le
    rw [hwindow] at this
    omega
  · rw [hwindow]
    omega

theorem rate_exceeded_default :
    ∃ before window : List RateEvent, window.count .tick < 10 ∧
      ((Limiter.start 24 0).run before).acquired window = 24 * 2 + 8 * 3 := by
  obtain ⟨before, window, hticks, hacq, -⟩ := (rate_exceeded 24 1 le_rfl 0).2
  exact ⟨before, window, hticks, hacq⟩

/-- One send a second is configured, and eleven go through within one. -/
theorem eleven_at_rate_one : ¬ ∀ M k, 1 ≤ M → 1 ≤ k → RateRespected M k := by
  intro h
  have hacq : ((Limiter.start 1 0).run []).acquired (drain 1 ++ rounds 1 10) = 11 := by decide
  have := h 1 1 le_rfl le_rfl 0 [] (drain 1 ++ rounds 1 10) (by decide)
  omega

end Ses
