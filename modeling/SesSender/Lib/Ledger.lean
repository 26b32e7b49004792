import Mathlib.Algebra.Order.Group.Multiset

/-! Ownership of queued work. Entries wait until somebody takes them, are then
in exactly one pair of hands, first on the near side of a gate and then on the
far side, and end up finished. A taken entry may go back to waiting as long as
it has not passed the gate, and a waiting one may be stopped. Hands may drop
what they hold. The gate lets an entry through at most once. -/

namespace Ledger

inductive Phase (α : Type*) where
  | waiting
  | taken
  | stopped
  | finished (a : α)

structure Book (ι α : Type*) where
  phase : ι → Option (Phase α)
  /-- in hand before the gate -/
  near : Multiset ι
  /-- in hand behind the gate -/
  far : Multiset ι
  /-- everything that ever passed the gate -/
  accepted : Multiset ι

inductive Move where
  | idle | enter | take | stop | accept | release | finish | lose
  deriving DecidableEq

variable {ι α : Type*}

/-- One move, by what it does to the phases and to the hands. -/
inductive Step : Move → Book ι α → Book ι α → Prop where
  | idle {b b' : Book ι α} (phase : ∀ i, b'.phase i = b.phase i) (near : b'.near = b.near)
      (far : b'.far = b.far) (accepted : b'.accepted = b.accepted) : Step .idle b b'
  | enter {b b' : Book ι α}
      (phase : ∀ i, b'.phase i = b.phase i ∨ b.phase i = none ∧ b'.phase i = some .waiting)
      (near : b'.near = b.near) (far : b'.far = b.far) (accepted : b'.accepted = b.accepted) :
      Step .enter b b'
  | enterTaken {b b' : Book ι α} (S : Multiset ι) (nodup : S.Nodup)
      (new : ∀ i ∈ S, b.phase i = none ∧ b'.phase i = some .taken)
      (old : ∀ i, i ∉ S → b'.phase i = b.phase i)
      (near : b'.near = S + b.near) (far : b'.far = b.far) (accepted : b'.accepted = b.accepted) :
      Step .enter b b'
  | take {b b' : Book ι α} (S : Multiset ι) (nodup : S.Nodup)
      (new : ∀ i ∈ S, b.phase i = some .waiting ∧ b'.phase i = some .taken)
      (old : ∀ i, i ∉ S → b'.phase i = b.phase i)
      (near : b'.near = S + b.near) (far : b'.far = b.far) (accepted : b'.accepted = b.accepted) :
      Step .take b b'
  | stop {b b' : Book ι α}
      (phase : ∀ i, b'.phase i = b.phase i ∨
        b.phase i = some .waiting ∧ b'.phase i = some .stopped)
      (near : b'.near = b.near) (far : b'.far = b.far) (accepted : b'.accepted = b.accepted) :
      Step .stop b b'
  | accept {b b' : Book ι α} (i : ι) (phase : ∀ j, b'.phase j = b.phase j)
      (near : b.near = i ::ₘ b'.near) (far : b'.far = i ::ₘ b.far)
      (accepted : b'.accepted = i ::ₘ b.accepted) : Step .accept b b'
  | release {b b' : Book ι α} (S : Multiset ι) (new : ∀ i ∈ S, b'.phase i = some .waiting)
      (old : ∀ i, i ∉ S → b'.phase i = b.phase i)
      (near : b.near = S + b'.near) (far : b'.far = b.far) (accepted : b'.accepted = b.accepted) :
      Step .release b b'
  | finish {b b' : Book ι α} (S : Multiset ι)
      (new : ∀ i ∈ S, ∃ a, b'.phase i = some (.finished a))
      (old : ∀ i, i ∉ S → b'.phase i = b.phase i)
      (near : b'.near = b.near) (far : b.far = S + b'.far) (accepted : b'.accepted = b.accepted) :
      Step .finish b b'
  /-- Hands drop entries, or an entry is taken and dropped at once. -/
  | lose {b b' : Book ι α}
      (phase : ∀ i, b'.phase i = b.phase i ∨ b.phase i = some .waiting ∧ b'.phase i = some .taken)
      (near : b'.near ≤ b.near) (far : b'.far ≤ b.far) (accepted : b'.accepted = b.accepted) :
      Step .lose b b'

/-- Who holds what agrees with the phases, and the gate has let nothing
through twice. -/
structure Inv (b : Book ι α) : Prop where
  nodup : (b.near + b.far).Nodup
  held : ∀ i ∈ b.near + b.far, b.phase i = some .taken
  once : b.accepted.Nodup
  gate : ∀ i ∈ b.near, i ∉ b.accepted
  passed : ∀ i ∈ b.accepted, b.phase i = some .taken ∨ ∃ a, b.phase i = some (.finished a)

/-- Nothing that is taken has been dropped. -/
def Conserved (b : Book ι α) : Prop := ∀ i, b.phase i = some .taken → i ∈ b.near + b.far

theorem Inv.not_accepted {b : Book ι α} (h : Inv b) {i : ι}
    (hi : b.phase i = none ∨ b.phase i = some .waiting ∨ b.phase i = some .stopped) :
    i ∉ b.accepted := by
  intro hm
  rcases h.passed i hm with hp | ⟨a, hp⟩ <;> rcases hi with hi | hi | hi <;> simp [hi] at hp

theorem Inv.not_held {b : Book ι α} (h : Inv b) {i : ι} (hi : b.phase i ≠ some .taken) :
    i ∉ b.near + b.far := fun hm => hi (h.held i hm)

/-- The invariant survives any move that hands out `S` from entries in phase `p`,
a phase nothing held or accepted is in. -/
theorem Inv.hand_out {b b' : Book ι α} (h : Inv b) (S : Multiset ι) (nodup : S.Nodup)
    (fresh : ∀ i ∈ S, b.phase i = none ∨ b.phase i = some .waiting)
    (new : ∀ i ∈ S, b'.phase i = some .taken) (old : ∀ i, i ∉ S → b'.phase i = b.phase i)
    (near : b'.near = S + b.near) (far : b'.far = b.far)
    (accepted : b'.accepted = b.accepted) : Inv b' := by
  have hnot : ∀ i ∈ S, i ∉ b.near + b.far := by
    intro i hi
    apply h.not_held
    rcases fresh i hi with hf | hf <;> simp [hf]
  have hacc : ∀ i ∈ S, i ∉ b.accepted := by
    intro i hi
    rcases fresh i hi with hf | hf
    · exact h.not_accepted (Or.inl hf)
    · exact h.not_accepted (Or.inr (Or.inl hf))
  have hsame : ∀ i, i ∈ b.near + b.far → b'.phase i = b.phase i :=
    fun i hi => old i fun hS => hnot i hS hi
  refine ⟨?_, ?_, accepted ▸ h.once, ?_, ?_⟩
  · rw [near, far, add_assoc, Multiset.nodup_add]
    exact ⟨nodup, h.nodup, Multiset.disjoint_left.2 fun hi => hnot _ hi⟩
  · intro i hi
    rw [near, far, add_assoc, Multiset.mem_add] at hi
    rcases hi with hi | hi
    · exact new i hi
    · rw [hsame i hi]; exact h.held i hi
  · intro i hi
    rw [near, Multiset.mem_add] at hi
    rw [accepted]
    exact hi.elim (hacc i) (h.gate i)
  · intro i hi
    rw [accepted] at hi
    rw [old i fun hS => hacc i hS hi]
    exact h.passed i hi

/-- The invariant survives any move that hands out nothing, lets nothing through the
gate and changes only the phases of entries nobody has taken. -/
theorem Inv.let_go {b b' : Book ι α} (h : Inv b)
    (phase : ∀ i, b'.phase i = b.phase i ∨ b.phase i = none ∨ b.phase i = some .waiting)
    (near : b'.near ≤ b.near) (far : b'.far ≤ b.far) (accepted : b'.accepted = b.accepted) :
    Inv b' := by
  have hle : b'.near + b'.far ≤ b.near + b.far := add_le_add near far
  refine ⟨Multiset.nodup_of_le hle h.nodup, ?_, accepted ▸ h.once, ?_, ?_⟩
  · intro i hi
    have hheld := Multiset.mem_of_le hle hi
    rcases phase i with hp | hp
    · rw [hp]; exact h.held i hheld
    · exact absurd hheld (h.not_held (by rcases hp with hp | hp <;> simp [hp]))
  · intro i hi
    rw [accepted]
    exact h.gate i (Multiset.mem_of_le near hi)
  · intro i hi
    rw [accepted] at hi
    rcases phase i with hp | hp
    · rw [hp]; exact h.passed i hi
    · exact absurd hi (h.not_accepted (hp.imp_right Or.inl))

theorem Step.inv {m : Move} {b b' : Book ι α} (hs : Step m b b') (h : Inv b) : Inv b' := by
  cases hs with
  | idle phase near far accepted =>
    exact h.let_go (fun i => Or.inl (phase i)) near.le far.le accepted
  | enter phase near far accepted =>
    exact h.let_go (fun i => (phase i).imp_right fun hp => Or.inl hp.1) near.le far.le accepted
  | enterTaken S nodup new old near far accepted =>
    exact h.hand_out S nodup (fun i hi => Or.inl (new i hi).1) (fun i hi => (new i hi).2) old
      near far accepted
  | take S nodup new old near far accepted =>
    exact h.hand_out S nodup (fun i hi => Or.inr (new i hi).1) (fun i hi => (new i hi).2) old
      near far accepted
  | stop phase near far accepted =>
    exact h.let_go (fun i => (phase i).imp_right fun hp => Or.inr hp.1) near.le far.le accepted
  | accept i phase near far accepted =>
    have hsum : b'.near + b'.far = b.near + b.far := by
      rw [near, far, Multiset.cons_add, Multiset.add_cons]
    have hi : i ∈ b.near := by rw [near]; exact Multiset.mem_cons_self i _
    have hn : i ∉ b'.near := by
      have := (Multiset.nodup_add.1 h.nodup).1
      rw [near, Multiset.nodup_cons] at this
      exact this.1
    refine ⟨hsum ▸ h.nodup, ?_, ?_, ?_, ?_⟩
    · intro j hj
      rw [hsum] at hj
      rw [phase]; exact h.held j hj
    · rw [accepted, Multiset.nodup_cons]
      exact ⟨h.gate i hi, h.once⟩
    · intro j hj
      rw [accepted, Multiset.mem_cons, not_or]
      refine ⟨fun hji => hn (hji ▸ hj), h.gate j ?_⟩
      rw [near]; exact Multiset.mem_cons_of_mem hj
    · intro j hj
      rw [accepted, Multiset.mem_cons] at hj
      rw [phase]
      rcases hj with rfl | hj
      · exact Or.inl (h.held j (Multiset.mem_add.2 (Or.inl hi)))
      · exact h.passed j hj
  | release S new old near far accepted =>
    have hnd := h.nodup
    rw [near, add_assoc, Multiset.nodup_add] at hnd
    obtain ⟨-, hrest, hdisj⟩ := hnd
    have hout : ∀ i ∈ b'.near + b.far, i ∉ S :=
      fun i hi hS => Multiset.disjoint_left.1 hdisj hS hi
    have hS : ∀ i ∈ S, i ∈ b.near := fun i hi => by rw [near]; exact Multiset.mem_add.2 (Or.inl hi)
    refine ⟨by rw [far]; exact hrest, ?_, accepted ▸ h.once, ?_, ?_⟩
    · intro i hi
      rw [far] at hi
      rw [old i (hout i hi)]
      apply h.held i
      rw [near, add_assoc]
      exact Multiset.mem_add.2 (Or.inr hi)
    · intro i hi
      rw [accepted]
      apply h.gate i
      rw [near]
      exact Multiset.mem_add.2 (Or.inr hi)
    · intro i hi
      rw [accepted] at hi
      rw [old i fun hiS => h.gate i (hS i hiS) hi]
      exact h.passed i hi
  | finish S new old near far accepted =>
    have hnd := h.nodup
    rw [far, add_left_comm, Multiset.nodup_add] at hnd
    obtain ⟨-, hrest, hdisj⟩ := hnd
    have hout : ∀ i ∈ b.near + b'.far, i ∉ S :=
      fun i hi hS => Multiset.disjoint_left.1 hdisj hS hi
    refine ⟨by rw [near]; exact hrest, ?_, accepted ▸ h.once, ?_, ?_⟩
    · intro i hi
      rw [near] at hi
      rw [old i (hout i hi)]
      apply h.held i
      rw [far, add_left_comm]
      exact Multiset.mem_add.2 (Or.inr hi)
    · rw [near, accepted]; exact h.gate
    · intro i hi
      rw [accepted] at hi
      by_cases hS : i ∈ S
      · exact Or.inr (new i hS)
      · rw [old i hS]; exact h.passed i hi
  | lose phase near far accepted =>
    exact h.let_go (fun i => (phase i).imp_right fun hp => Or.inr hp.1) near far accepted

/-- Only `lose` drops anything. -/
theorem Step.conserved {m : Move} {b b' : Book ι α} (hs : Step m b b') (hm : m ≠ .lose)
    (h : Conserved b) : Conserved b' := by
  intro i hi
  cases hs with
  | idle phase near far _ => rw [near, far]; exact h i (phase i ▸ hi)
  | enter phase near far _ =>
    rw [near, far]
    rcases phase i with hp | ⟨-, hp⟩
    · exact h i (hp ▸ hi)
    · simp [hp] at hi
  | enterTaken S _ new old near far _ =>
    rw [near, far, add_assoc, Multiset.mem_add]
    by_cases hS : i ∈ S
    · exact Or.inl hS
    · exact Or.inr (h i (old i hS ▸ hi))
  | take S _ new old near far _ =>
    rw [near, far, add_assoc, Multiset.mem_add]
    by_cases hS : i ∈ S
    · exact Or.inl hS
    · exact Or.inr (h i (old i hS ▸ hi))
  | stop phase near far _ =>
    rw [near, far]
    rcases phase i with hp | ⟨-, hp⟩
    · exact h i (hp ▸ hi)
    · simp [hp] at hi
  | accept j phase near far _ =>
    rw [far, Multiset.add_cons, ← Multiset.cons_add, ← near]
    exact h i (phase i ▸ hi)
  | release S new old near far _ =>
    by_cases hS : i ∈ S
    · simp [new i hS] at hi
    · have := h i (old i hS ▸ hi)
      rw [near, add_assoc, Multiset.mem_add] at this
      rw [far]
      exact this.resolve_left hS
  | finish S new old near far _ =>
    by_cases hS : i ∈ S
    · obtain ⟨a, ha⟩ := new i hS
      simp [ha] at hi
    · have := h i (old i hS ▸ hi)
      rw [far, add_left_comm, Multiset.mem_add] at this
      rw [near]
      exact this.resolve_left hS
  | lose _ _ _ _ => exact absurd rfl hm

/-- Taken by somebody who has dropped it. -/
def Stranded (b : Book ι α) (i : ι) : Prop := b.phase i = some .taken ∧ i ∉ b.near + b.far

/-- What is dropped is never taken up again: no move brings it back. -/
theorem Step.stranded {m : Move} {b b' : Book ι α} (hs : Step m b b') {i : ι}
    (h : Stranded b i) : Stranded b' i ∧ (i ∈ b'.accepted → i ∈ b.accepted) := by
  obtain ⟨hp, hno⟩ := h
  rw [Multiset.mem_add, not_or] at hno
  cases hs with
  | idle phase near far accepted =>
    rw [Stranded, phase, near, far, accepted, Multiset.mem_add, not_or]
    exact ⟨⟨hp, hno⟩, id⟩
  | enter phase near far accepted =>
    rw [Stranded, near, far, accepted, Multiset.mem_add, not_or]
    refine ⟨⟨?_, hno⟩, id⟩
    rcases phase i with hi | ⟨hi, -⟩
    · rw [hi, hp]
    · simp [hi] at hp
  | enterTaken S nodup new old near far accepted =>
    have hS : i ∉ S := fun hS => by simp [(new i hS).1] at hp
    rw [Stranded, old i hS, near, far, accepted, Multiset.mem_add, Multiset.mem_add, not_or, not_or]
    exact ⟨⟨hp, ⟨hS, hno.1⟩, hno.2⟩, id⟩
  | take S nodup new old near far accepted =>
    have hS : i ∉ S := fun hS => by simp [(new i hS).1] at hp
    rw [Stranded, old i hS, near, far, accepted, Multiset.mem_add, Multiset.mem_add, not_or, not_or]
    exact ⟨⟨hp, ⟨hS, hno.1⟩, hno.2⟩, id⟩
  | stop phase near far accepted =>
    rw [Stranded, near, far, accepted, Multiset.mem_add, not_or]
    refine ⟨⟨?_, hno⟩, id⟩
    rcases phase i with hi | ⟨hi, -⟩
    · rw [hi, hp]
    · simp [hi] at hp
  | accept j phase near far accepted =>
    rw [near, Multiset.mem_cons, not_or] at hno
    rw [Stranded, phase, far, accepted, Multiset.mem_add, Multiset.mem_cons, Multiset.mem_cons,
      not_or, not_or]
    exact ⟨⟨hp, hno.1.2, hno.1.1, hno.2⟩, fun hi => hi.resolve_left hno.1.1⟩
  | release S new old near far accepted =>
    rw [near, Multiset.mem_add, not_or] at hno
    rw [Stranded, old i hno.1.1, far, accepted, Multiset.mem_add, not_or]
    exact ⟨⟨hp, hno.1.2, hno.2⟩, id⟩
  | finish S new old near far accepted =>
    rw [far, Multiset.mem_add, not_or] at hno
    rw [Stranded, old i hno.2.1, near, accepted, Multiset.mem_add, not_or]
    exact ⟨⟨hp, hno.1, hno.2.2⟩, id⟩
  | lose phase near far accepted =>
    rw [Stranded, accepted, Multiset.mem_add, not_or]
    refine ⟨⟨?_, fun hi => hno.1 (Multiset.mem_of_le near hi),
      fun hi => hno.2 (Multiset.mem_of_le far hi)⟩, id⟩
    rcases phase i with hi | ⟨hi, -⟩
    · rw [hi, hp]
    · simp [hi] at hp

/-- The phase changes a move can make. -/
inductive Change : Option (Phase α) → Option (Phase α) → Prop where
  | same (p) : Change p p
  | enter : Change none (some .waiting)
  | enterTaken : Change none (some .taken)
  | take : Change (some .waiting) (some .taken)
  | stop : Change (some .waiting) (some .stopped)
  | release : Change (some .taken) (some .waiting)
  | finish (a) : Change (some .taken) (some (.finished a))

theorem Step.change {m : Move} {b b' : Book ι α} (hs : Step m b b') (h : Inv b) (i : ι) :
    Change (b.phase i) (b'.phase i) := by
  cases hs with
  | idle phase _ _ _ => rw [phase]; exact .same _
  | enter phase _ _ _ =>
    rcases phase i with hp | ⟨hp, hp'⟩
    · rw [hp]; exact .same _
    · rw [hp, hp']; exact .enter
  | enterTaken S _ new old _ _ _ =>
    by_cases hS : i ∈ S
    · rw [(new i hS).1, (new i hS).2]; exact .enterTaken
    · rw [old i hS]; exact .same _
  | take S _ new old _ _ _ =>
    by_cases hS : i ∈ S
    · rw [(new i hS).1, (new i hS).2]; exact .take
    · rw [old i hS]; exact .same _
  | stop phase _ _ _ =>
    rcases phase i with hp | ⟨hp, hp'⟩
    · rw [hp]; exact .same _
    · rw [hp, hp']; exact .stop
  | accept _ phase _ _ _ => rw [phase]; exact .same _
  | release S new old near _ _ =>
    by_cases hS : i ∈ S
    · have : b.phase i = some .taken :=
        h.held i (by rw [near, add_assoc]; exact Multiset.mem_add.2 (Or.inl hS))
      rw [this, new i hS]; exact .release
    · rw [old i hS]; exact .same _
  | finish S new old _ far _ =>
    by_cases hS : i ∈ S
    · obtain ⟨a, ha⟩ := new i hS
      have : b.phase i = some .taken :=
        h.held i (by rw [far, add_left_comm]; exact Multiset.mem_add.2 (Or.inl hS))
      rw [this, ha]; exact .finish a
    · rw [old i hS]; exact .same _
  | lose phase _ _ _ =>
    rcases phase i with hp | ⟨hp, hp'⟩
    · rw [hp]; exact .same _
    · rw [hp, hp']; exact .take

/-- A stopped or finished entry stays what it is. -/
theorem Change.terminal {p q : Option (Phase α)} (h : Change p q)
    (hp : p = some .stopped ∨ ∃ a, p = some (.finished a)) : q = p := by
  cases h with
  | same => rfl
  | _ => rcases hp with hp | ⟨a, hp⟩ <;> simp at hp

end Ledger
