import Mathlib.Algebra.BigOperators.Ring.Finset
import Mathlib.Tactic.ByContra
import SesSender.Lib.Exec

/-! Step functions some of whose steps are work: each lowers a weight, so that
work alone comes to an end. Nothing here knows what the states or the events
are. -/

namespace Exec

variable {σ ε : Type*}

/-- The step function cut down to the steps that are work. -/
def only (step : σ → ε → Option σ) (work : σ → ε → Bool) (s : σ) (e : ε) : Option σ :=
  if work s e then step s e else none

variable {step : σ → ε → Option σ} {work : σ → ε → Bool} {s t : σ} {e : ε} {es : List ε}

theorem only_eq_some : only step work s e = some t ↔ work s e = true ∧ step s e = some t := by
  unfold only
  split <;> simp_all

/-- What each step is, each event of a run is. -/
theorem run_forall {P : ε → Prop} (hP : ∀ {s e t}, step s e = some t → P e)
    (h : run step s es = some t) : ∀ e ∈ es, P e := by
  induction es generalizing s with
  | nil => simp
  | cons e es ih =>
    obtain ⟨u, hu, hr⟩ := run_cons.1 h
    exact List.forall_mem_cons.2 ⟨hP hu, ih hr⟩

theorem run_mono {step' : σ → ε → Option σ}
    (hle : ∀ {s e t}, step s e = some t → step' s e = some t) (h : run step s es = some t) :
    run step' s es = some t := by
  induction es generalizing s with
  | nil => exact h
  | cons e es ih =>
    obtain ⟨u, hu, hr⟩ := run_cons.1 h
    exact run_cons.2 ⟨u, hle hu, ih hr⟩

theorem run_of_only (h : run (only step work) s es = some t) : run step s es = some t :=
  run_mono (fun h => (only_eq_some.1 h).2) h

/-- How much of a run is work, up to the first event that is not enabled. -/
def worked (step : σ → ε → Option σ) (work : σ → ε → Bool) : σ → List ε → ℕ
  | _, [] => 0
  | s, e :: es => (work s e).toNat + ((step s e).elim 0 fun t => worked step work t es)

theorem run_only_of_forall {P : ε → Bool} (h : run step s es = some t)
    (hP : ∀ e ∈ es, P e = true) : run (only step fun _ => P) s es = some t := by
  induction es generalizing s with
  | nil => exact h
  | cons e es ih =>
    obtain ⟨u, hu, hr⟩ := run_cons.1 h
    obtain ⟨he, hes⟩ := List.forall_mem_cons.1 hP
    exact run_cons.2 ⟨u, only_eq_some.2 ⟨he, hu⟩, ih hr hes⟩

theorem countP_cons_toNat {P : ε → Bool} : (e :: es).countP P = (P e).toNat + es.countP P := by
  rw [List.countP_cons]
  cases P e <;> simp [Nat.add_comm]

/-- Where the event alone tells whether a step is work, the work in a run is counted. -/
theorem worked_eq_countP {P : ε → Bool} (h : run step s es = some t) :
    worked step (fun _ => P) s es = es.countP P := by
  induction es generalizing s with
  | nil => rfl
  | cons e es ih =>
    obtain ⟨u, hu, hr⟩ := run_cons.1 h
    rw [worked, hu, Option.elim_some, ih hr, countP_cons_toNat]

/-- The work of a run is that of the run it projects to. -/
theorem worked_project {σ' ε' : Type*} {step' : σ' → ε' → Option σ'} {π : σ → σ'}
    {φ : ε → Option ε'} {work' : σ' → ε' → Bool}
    (hstep : ∀ {s e t}, step s e = some t → run step' (π s) (φ e).toList = some (π t))
    (hwork : ∀ s e, work s e = (φ e).any (work' (π s))) (h : run step s es = some t) :
    worked step' work' (π s) (es.filterMap φ) = worked step work s es := by
  induction es generalizing s with
  | nil => rfl
  | cons e es ih =>
    obtain ⟨u, hu, hr⟩ := run_cons.1 h
    have hrest := ih hr
    have hproj := hstep hu
    rw [worked, hu, Option.elim_some, ← hrest, hwork, List.filterMap_cons]
    cases hφ : φ e with
    | none =>
      rw [hφ] at hproj
      rw [run_nil.1 hproj, Option.any_none, Bool.toNat_false, Nat.zero_add]
    | some e' =>
      rw [hφ] at hproj
      obtain ⟨v, hv, hnil⟩ := run_cons.1 hproj
      rw [run_nil.1 hnil] at hv
      rw [Option.any_some, worked, hv, Option.elim_some]

/-- Within `I` a step adds to the weight at most what its event costs, and one
less when it is work; work costs nothing. -/
structure Weighs (step : σ → ε → Option σ) (work : σ → ε → Bool) (I : σ → Prop) (weight : σ → ℕ)
    (cost : ε → ℕ) : Prop where
  keeps : ∀ {s e t}, step s e = some t → I s → I t
  weighs : ∀ {s e t}, step s e = some t → I s →
    (work s e).toNat + weight t ≤ weight s + cost e
  free : ∀ {s e}, work s e = true → cost e = 0

section Weighs

variable {I Quiet : σ → Prop} {weight : σ → ℕ} {cost : ε → ℕ}

namespace Weighs

theorem lowers (d : Weighs step work I weight cost) (h : only step work s e = some t)
    (hI : I s) : weight t < weight s := by
  obtain ⟨hw, hs⟩ := only_eq_some.1 h
  have := d.weighs hs hI
  rw [hw, d.free hw, Bool.toNat_true] at this
  omega

/-- The work in a run is paid for by the weight it starts with and by its events. -/
theorem worked_le (d : Weighs step work I weight cost) (h : run step s es = some t)
    (hI : I s) : worked step work s es + weight t ≤ weight s + (es.map cost).sum := by
  induction es generalizing s with
  | nil =>
    obtain rfl := run_nil.1 h
    simp [worked]
  | cons e es ih =>
    obtain ⟨u, hu, hr⟩ := run_cons.1 h
    have hstep := d.weighs hu hI
    have hrest := ih hr (d.keeps hu hI)
    simp only [worked, hu, Option.elim_some, List.map_cons, List.sum_cons]
    omega

/-- Nothing but work cannot go on for longer than the weight. -/
theorem length_le (d : Weighs step work I weight cost)
    (h : run (only step work) s es = some t) (hI : I s) :
    es.length + weight t ≤ weight s := by
  induction es generalizing s with
  | nil =>
    obtain rfl := run_nil.1 h
    simp
  | cons e es ih =>
    obtain ⟨u, hu, hr⟩ := run_cons.1 h
    have hlt := d.lowers hu hI
    have := ih hr (d.keeps (only_eq_some.1 hu).2 hI)
    rw [List.length_cons]
    omega

/-- Where short of `Quiet` there is always work, work alone leads to `Quiet`. -/
theorem finishes (d : Weighs step work I weight cost)
    (moves : ∀ {s}, I s → ¬ Quiet s → ∃ e t, work s e = true ∧ step s e = some t) (hI : I s) :
    ∃ es t, run (only step work) s es = some t ∧ Quiet t := by
  induction hn : weight s using Nat.strongRecOn generalizing s with
  | ind n ih =>
    by_cases hq : Quiet s
    · exact ⟨[], s, run_nil.2 rfl, hq⟩
    · obtain ⟨e, t, hw, hs⟩ := moves hI hq
      have ho := only_eq_some.2 ⟨hw, hs⟩
      obtain ⟨es, u, hr, hu⟩ := ih (weight t) (hn ▸ d.lowers ho hI) (d.keeps hs hI) rfl
      exact ⟨e :: es, u, run_cons.2 ⟨t, ho, hr⟩, hu⟩

end Weighs

end Weighs

/-- Replacing one element changes a sum by the difference of the two. -/
theorem sum_map_set {α : Type*} {l : List α} {i : ℕ} {a : α} (f : α → ℕ) (h : l[i]? = some a) (b : α) :
    ((l.set i b).map f).sum + f a = (l.map f).sum + f b := by
  induction l generalizing i with
  | nil => simp at h
  | cons x l ih =>
    cases i with
    | zero =>
      obtain rfl : x = a := by simpa using h
      simp only [List.set_cons_zero, List.map_cons, List.sum_cons]
      omega
    | succ i =>
      have := ih (i := i) (by simpa using h)
      simp only [List.set_cons_succ, List.map_cons, List.sum_cons]
      omega

end Exec
