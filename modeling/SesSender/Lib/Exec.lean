import Mathlib.Logic.Basic

/-! Runs of a step function that may be disabled, and the rules that carry a
property along a run. Nothing here knows what the states or the events are. -/

namespace Exec

variable {σ ε : Type*}

/-- The state after the events in order, `none` from the first one not enabled on. -/
def run (step : σ → ε → Option σ) : σ → List ε → Option σ
  | s, [] => some s
  | s, e :: es => (step s e).bind fun t => run step t es

variable {step : σ → ε → Option σ}

theorem run_nil {s t : σ} : run step s [] = some t ↔ s = t := by
  simp [run]

theorem run_cons {s u : σ} {e : ε} {es : List ε} :
    run step s (e :: es) = some u ↔ ∃ t, step s e = some t ∧ run step t es = some u := by
  simp [run, Option.bind_eq_some_iff]

theorem run_append {s u : σ} {es es' : List ε} :
    run step s (es ++ es') = some u ↔ ∃ t, run step s es = some t ∧ run step t es' = some u := by
  induction es generalizing s with
  | nil => simp [run]
  | cons e es ih => simp only [List.cons_append, run_cons, ih]; grind

/-- A run that goes through and passes a test. -/
theorem exists_of_any (step : σ → ε → Option σ) (s : σ) (es : List ε) (p : σ → Bool)
    (h : (run step s es).any p = true) :
    ∃ t, run step s es = some t ∧ p t = true := by
  obtain ⟨t, ht, hp⟩ := (Option.any_eq_true _ _).1 h
  exact ⟨t, ht, hp⟩

/-- What holds at the end of a run and not at its start, one step has made true. -/
theorem run_became {P : σ → Prop} {s t : σ} {es : List ε} (h : run step s es = some t)
    (hs : ¬ P s) (ht : P t) : ∃ pre e post u v, es = pre ++ e :: post ∧
      run step s pre = some u ∧ step u e = some v ∧ run step v post = some t ∧ ¬ P u ∧ P v := by
  induction es generalizing s with
  | nil => exact absurd (run_nil.1 h ▸ ht) hs
  | cons e es ih =>
    obtain ⟨v, hv, hr⟩ := run_cons.1 h
    by_cases hPv : P v
    · exact ⟨[], e, es, s, v, rfl, rfl, hv, hr, hs, hPv⟩
    · obtain ⟨pre, e', post, u, w, rfl, hpre, hstep, hpost, hu, hw⟩ := ih hr hPv
      exact ⟨e :: pre, e', post, u, w, rfl, run_cons.2 ⟨v, hv, hpre⟩, hstep, hpost, hu, hw⟩

/-- A transitive relation that every step respects holds between the ends of a run. -/
theorem run_rel {R : σ → σ → Prop} (refl : ∀ s, R s s) (trans : ∀ {a b c}, R a b → R b c → R a c)
    (hstep : ∀ {s e t}, step s e = some t → R s t) {s t : σ} {es : List ε}
    (h : run step s es = some t) : R s t := by
  induction es generalizing s with
  | nil => rw [run_nil.1 h]; exact refl t
  | cons e es ih =>
    obtain ⟨u, hu, hr⟩ := run_cons.1 h
    exact trans (hstep hu) (ih hr)

/-- What every step keeps, a run keeps. -/
theorem run_keeps {I : σ → Prop} (hstep : ∀ {s e t}, step s e = some t → I s → I t) {s t : σ}
    {es : List ε} (h : run step s es = some t) (hs : I s) : I t :=
  run_rel (R := fun s t => I s → I t) (fun _ => id) (fun h h' hs => h' (h hs)) hstep h hs

theorem filterMap_cons_toList {α : Type*} (φ : ε → Option α) (e : ε) (es : List ε) :
    (e :: es).filterMap φ = (φ e).toList ++ es.filterMap φ := by
  cases hφ : φ e <;> simp [hφ]

/-- A system each of whose steps is a step of another one, or none, runs as that one does. -/
theorem run_project {σ' ε' : Type*} {step' : σ' → ε' → Option σ'} {π : σ → σ'}
    {φ : ε → Option ε'}
    (hstep : ∀ {s e t}, step s e = some t → run step' (π s) (φ e).toList = some (π t)) {s t : σ}
    {es : List ε} (h : run step s es = some t) :
    run step' (π s) (es.filterMap φ) = some (π t) := by
  induction es generalizing s with
  | nil => rw [run_nil.1 h]; rfl
  | cons e es ih =>
    obtain ⟨u, hu, hr⟩ := run_cons.1 h
    rw [filterMap_cons_toList]
    exact run_append.2 ⟨π u, hstep hu, ih hr⟩

/-- The invariant rule. Every event of the run satisfies `P`, and `G` is a fact
about the end of the run that each step hands back to the state before it. -/
theorem run_invariant {I G : σ → Prop} {P : ε → Prop}
    (hback : ∀ {s e t}, step s e = some t → G t → G s)
    (hstep : ∀ {s e t}, step s e = some t → P e → G t → I s → I t) {s t : σ} {es : List ε}
    (h : run step s es = some t) (hP : ∀ e ∈ es, P e) (hG : G t) (hs : I s) : I t := by
  have hend : ∀ {es : List ε} {s : σ}, run step s es = some t → G s := by
    intro es
    induction es with
    | nil => intro s h; rw [run_nil.1 h]; exact hG
    | cons e es ih =>
      intro s h
      obtain ⟨u, hu, hr⟩ := run_cons.1 h
      exact hback hu (ih hr)
  induction es generalizing s with
  | nil => rw [← run_nil.1 h]; exact hs
  | cons e es ih =>
    obtain ⟨u, hu, hr⟩ := run_cons.1 h
    exact ih hr (fun e' he' => hP e' (by simp [he'])) (hstep hu (hP e (by simp)) (hend hr) hs)

end Exec
