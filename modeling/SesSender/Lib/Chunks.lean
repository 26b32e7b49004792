import Mathlib.Data.List.Basic

/-! `chunks n`: a list cut into pieces of `n`, the last one possibly shorter. -/

namespace Chunks

variable {α : Type*}

def go (n : ℕ) : ℕ → List α → List (List α)
  | 0, _ => []
  | _ + 1, [] => []
  | fuel + 1, x :: xs => (x :: xs).take n :: go n fuel ((x :: xs).drop n)

def chunks (n : ℕ) (xs : List α) : List (List α) := go n xs.length xs

theorem go_flatten {n : ℕ} (hn : 0 < n) (fuel : ℕ) (xs : List α) (h : xs.length ≤ fuel) :
    (go n fuel xs).flatten = xs := by
  induction fuel generalizing xs with
  | zero => simp [List.length_eq_zero_iff.1 (Nat.le_zero.1 h), go]
  | succ fuel ih =>
    cases xs with
    | nil => rfl
    | cons x xs =>
      have hlen : ((x :: xs).drop n).length ≤ fuel := by
        simp only [List.length_drop, List.length_cons] at h ⊢; omega
      rw [go, List.flatten_cons, ih _ hlen, List.take_append_drop]

theorem flatten_chunks {n : ℕ} (hn : 0 < n) (xs : List α) : (chunks n xs).flatten = xs :=
  go_flatten hn _ xs (Nat.le_refl _)

/-- There is a `k`-th piece exactly when the pieces before it do not use up the list. -/
theorem lt_length_go {n : ℕ} (hn : 0 < n) (fuel : ℕ) (xs : List α) (h : xs.length ≤ fuel) (k : ℕ) :
    k < (go n fuel xs).length ↔ k * n < xs.length := by
  induction fuel generalizing xs k with
  | zero => simp [List.length_eq_zero_iff.1 (Nat.le_zero.1 h), go]
  | succ fuel ih =>
    cases xs with
    | nil => simp [go]
    | cons x xs =>
      have hlen : ((x :: xs).drop n).length ≤ fuel := by
        simp only [List.length_drop, List.length_cons] at h ⊢; omega
      rw [go, List.length_cons]
      cases k with
      | zero => simp
      | succ k =>
        rw [Nat.add_lt_add_iff_right, ih _ hlen, List.length_drop, Nat.succ_mul]
        omega

theorem lt_length_chunks {n : ℕ} (hn : 0 < n) {xs : List α} {k : ℕ} :
    k < (chunks n xs).length ↔ k * n < xs.length := lt_length_go hn _ xs (Nat.le_refl _) k

theorem bounds_of_mem_go {n : ℕ} (hn : 0 < n) {fuel : ℕ} {xs piece : List α}
    (h : piece ∈ go n fuel xs) : piece ≠ [] ∧ piece.length ≤ n := by
  induction fuel generalizing xs with
  | zero => cases h
  | succ fuel ih =>
    cases xs with
    | nil => cases h
    | cons x xs =>
      rcases List.mem_cons.1 h with rfl | h
      · refine ⟨fun hnil => ?_, List.length_take_le _ _⟩
        rcases List.take_eq_nil_iff.1 hnil with hz | hz
        · omega
        · cases hz
      · exact ih h

/-- No piece is empty, none longer than `n`. -/
theorem bounds_of_mem {n : ℕ} (hn : 0 < n) {xs piece : List α} (h : piece ∈ chunks n xs) :
    piece ≠ [] ∧ piece.length ≤ n :=
  bounds_of_mem_go hn h

end Chunks
