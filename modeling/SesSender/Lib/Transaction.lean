import Mathlib.Logic.Basic

/-! A connection to a store. A program runs its statements one by one, each of
which may fail; inside a transaction nothing of it shows before the commit. -/

namespace Transaction

variable {σ ε α β : Type*}

/-- What everybody sees, and what the open transaction has made of it. -/
structure Conn (σ : Type*) where
  committed : σ
  working : Option σ

namespace Conn

/-- Outside of a transaction. -/
def idle (s : σ) : Conn σ := ⟨s, none⟩

def current (c : Conn σ) : σ := c.working.getD c.committed

/-- What a statement writes. Outside of a transaction it shows at once. -/
def put (c : Conn σ) (s : σ) : Conn σ :=
  match c.working with
  | some _ => { c with working := some s }
  | none => { c with committed := s }

def begin (c : Conn σ) : Conn σ := { c with working := some c.committed }

def commit (c : Conn σ) : Conn σ := ⟨c.current, none⟩

def rollback (c : Conn σ) : Conn σ := ⟨c.committed, none⟩

end Conn

/-- What is returned, or the error it stops with, and the connection as it is then. -/
abbrev Program (σ ε α : Type*) := Conn σ → Except ε α × Conn σ

namespace Program

def pure (a : α) : Program σ ε α := fun c => (.ok a, c)

def bind (p : Program σ ε α) (f : α → Program σ ε β) : Program σ ε β := fun c =>
  match p c with
  | (.ok a, c') => f a c'
  | (.error e, c') => (.error e, c')

/-- One statement. If it fails it has no effect. -/
def statement (f : σ → Except ε (α × σ)) : Program σ ε α := fun c =>
  match f c.current with
  | .ok (a, s) => (.ok a, c.put s)
  | .error e => (.error e, c)

/-- The program between `BEGIN` and `COMMIT`. On an error the transaction is dropped. -/
def transaction (beginFault commitFault : Option ε) (p : Program σ ε α) : Program σ ε α := fun c =>
  match beginFault with
  | some e => (.error e, c)
  | none =>
    match p c.begin with
    | (.error e, c') => (.error e, c'.rollback)
    | (.ok a, c') =>
      match commitFault with
      | some e => (.error e, c'.rollback)
      | none => (.ok a, c'.commit)

/-! ## Inside a transaction -/

/-- In a transaction that has made `s` of the store the program comes to `r`, and
what is committed stays as it is. -/
def Computes (p : Program σ ε α) (s : σ) (r : Except ε (α × σ)) : Prop :=
  ∀ k, match r with
    | .ok (a, s') => p ⟨k, some s⟩ = (.ok a, ⟨k, some s'⟩)
    | .error e => ∃ w, p ⟨k, some s⟩ = (.error e, ⟨k, some w⟩)

theorem computes_pure (a : α) (s : σ) : (pure a : Program σ ε α).Computes s (.ok (a, s)) :=
  fun _ => rfl

theorem computes_statement (f : σ → Except ε (α × σ)) (s : σ) :
    (statement f).Computes s (f s) := by
  intro k
  have hcurrent : (⟨k, some s⟩ : Conn σ).current = s := rfl
  cases hf : f s with
  | ok r => simp only [statement, hcurrent, hf]; rfl
  | error e => exact ⟨s, by simp only [statement, hcurrent, hf]⟩

theorem Computes.bind_ok {p : Program σ ε α} {f : α → Program σ ε β} {s s' : σ} {a : α}
    {r : Except ε (β × σ)} (hp : p.Computes s (.ok (a, s'))) (hf : (f a).Computes s' r) :
    (p.bind f).Computes s r := by
  intro k
  have hrun : p.bind f ⟨k, some s⟩ = f a ⟨k, some s'⟩ := by
    rw [bind, hp k]
  cases r with
  | ok r => exact hrun.trans (hf k)
  | error e =>
    obtain ⟨w, hw⟩ := hf k
    exact ⟨w, hrun.trans hw⟩

theorem Computes.bind_error {p : Program σ ε α} (f : α → Program σ ε β) {s : σ} {e : ε}
    (hp : p.Computes s (.error e)) : (p.bind f).Computes s (.error e) := by
  intro k
  obtain ⟨w, hw⟩ := hp k
  exact ⟨w, by rw [bind, hw]⟩

/-! ## The transaction as a whole -/

/-- What is left of a transaction on `s` that comes to `r`. -/
def outcome (s : σ) : Except ε (α × σ) → Except ε α × Conn σ
  | .ok (a, s') => (.ok a, Conn.idle s')
  | .error e => (.error e, Conn.idle s)

theorem Computes.transaction {p : Program σ ε α} {s : σ} {r : Except ε (α × σ)}
    (hp : p.Computes s r) : Program.transaction none none p (Conn.idle s) = outcome s r := by
  cases r with
  | ok r =>
    have hrun : p (Conn.idle s).begin = (.ok r.1, ⟨s, some r.2⟩) := hp s
    rw [Program.transaction, hrun]
    rfl
  | error e =>
    obtain ⟨w, hw⟩ := hp s
    have hrun : p (Conn.idle s).begin = (.error e, ⟨s, some w⟩) := hw
    rw [Program.transaction, hrun]
    rfl

/-- Nothing is left of it either when the commit fails. -/
theorem Computes.transaction_fault {p : Program σ ε α} {s : σ} {r : Except ε (α × σ)}
    (hp : p.Computes s r) (e : ε) :
    Program.transaction none (some e) p (Conn.idle s) = outcome s (r.bind fun _ => .error e) := by
  cases r with
  | ok r =>
    have hrun : p (Conn.idle s).begin = (.ok r.1, ⟨s, some r.2⟩) := hp s
    rw [Program.transaction, hrun]
    rfl
  | error e' =>
    obtain ⟨w, hw⟩ := hp s
    have hrun : p (Conn.idle s).begin = (.error e', ⟨s, some w⟩) := hw
    rw [Program.transaction, hrun]
    rfl

end Program

end Transaction
