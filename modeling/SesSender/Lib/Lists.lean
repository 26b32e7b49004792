import Mathlib.Data.List.Forall2
import Mathlib.Data.List.Perm.Basic

/-! Lists read through an index, a partial map or a replaced element. -/

namespace Lists

variable {α β : Type*}

theorem mapM_eq_some {f : α → Option β} {xs : List α} {ys : List β} :
    xs.mapM f = some ys ↔ List.Forall₂ (fun x y => f x = some y) xs ys := by
  induction xs generalizing ys with
  | nil => simp [eq_comm]
  | cons x xs ih =>
    rw [List.mapM_cons, List.forall₂_cons_left_iff]
    cases hx : f x with
    | none => simp
    | some y =>
      cases hxs : xs.mapM f with
      | none =>
        have hno : ∀ zs, ¬ List.Forall₂ (fun x y => f x = some y) xs zs := by
          intro zs hzs
          simp [hxs] at ih
          exact ih hzs
        simp [hno]
      | some zs =>
        have hzs := ih.1 hxs
        have huniq : ∀ us, List.Forall₂ (fun x y => f x = some y) xs us → us = zs := by
          intro us hus
          exact (Option.some.inj (hxs.symm.trans (ih.2 hus))).symm
        simp only [Option.pure_def, Option.bind_eq_bind, Option.bind_some, Option.some.injEq]
        refine ⟨?_, ?_⟩
        · rintro rfl; exact ⟨y, zs, rfl, hzs, rfl⟩
        · rintro ⟨b, u, rfl, hu, rfl⟩; rw [huniq u hu]

theorem mapM_isSome {f : α → Option β} {xs : List α} (h : ∀ x ∈ xs, ∃ y, f x = some y) :
    ∃ ys, xs.mapM f = some ys := by
  induction xs with
  | nil => exact ⟨[], rfl⟩
  | cons x xs ih =>
    obtain ⟨y, hy⟩ := h x (by simp)
    obtain ⟨ys, hys⟩ := ih fun x' hx' => h x' (by simp [hx'])
    exact ⟨y :: ys, by simp [List.mapM_cons, hy, hys]⟩

theorem forall₂_map_eq {γ : Type*} {R : α → β → Prop} {f : α → γ} {g : β → γ} {xs : List α}
    {ys : List β} (h : List.Forall₂ R xs ys) (hR : ∀ x y, R x y → f x = g y) :
    xs.map f = ys.map g := by
  induction h with
  | nil => rfl
  | cons hr _ ih => rw [List.map_cons, List.map_cons, hR _ _ hr, ih]

theorem forall₂_mem_right {R : α → β → Prop} {xs : List α} {ys : List β}
    (h : List.Forall₂ R xs ys) {y : β} (hy : y ∈ ys) : ∃ x ∈ xs, R x y := by
  induction h with
  | nil => cases hy
  | cons hr _ ih =>
    rcases List.mem_cons.1 hy with rfl | hy
    · exact ⟨_, by simp, hr⟩
    · obtain ⟨x, hx, hr⟩ := ih hy
      exact ⟨x, by simp [hx], hr⟩

theorem forall₂_mem_left {R : α → β → Prop} {xs : List α} {ys : List β}
    (h : List.Forall₂ R xs ys) {x : α} (hx : x ∈ xs) : ∃ y ∈ ys, R x y :=
  forall₂_mem_right h.flip hx

theorem forall₂_getElem?_right {R : α → β → Prop} {xs : List α} {ys : List β}
    (h : List.Forall₂ R xs ys) {i : ℕ} {y : β} (hy : ys[i]? = some y) :
    ∃ x, xs[i]? = some x ∧ R x y := by
  induction h generalizing i with
  | nil => simp at hy
  | cons hr _ ih =>
    cases i with
    | zero =>
      simp only [List.getElem?_cons_zero, Option.some.injEq] at hy ⊢
      exact ⟨_, rfl, hy ▸ hr⟩
    | succ i => simp only [List.getElem?_cons_succ] at hy ⊢; exact ih hy

theorem forall₂_getElem?_left {R : α → β → Prop} {xs : List α} {ys : List β}
    (h : List.Forall₂ R xs ys) {i : ℕ} {x : α} (hx : xs[i]? = some x) :
    ∃ y, ys[i]? = some y ∧ R x y :=
  forall₂_getElem?_right h.flip hx

theorem filterMap_of_forall₂ {f : α → Option β} {xs : List α} {ys : List β}
    (h : List.Forall₂ (fun x y => f x = some y) xs ys) : xs.filterMap f = ys := by
  induction h with
  | nil => rfl
  | cons hy _ ih => rw [List.filterMap_cons_some hy, ih]

/-- Images in another order are the images of the elements in some order. -/
theorem exists_perm_map {f : α → β} {xs : List α} {ys : List β} (h : ys.Perm (xs.map f)) :
    ∃ zs : List α, zs.Perm xs ∧ zs.map f = ys := by
  have hmap : List.Forall₂ (fun y x => y = f x) (xs.map f) xs :=
    List.forall₂_map_left_iff.2 (List.forall₂_same.2 fun _ _ => rfl)
  obtain ⟨zs, hzs, hperm⟩ := List.perm_comp_forall₂ h hmap
  refine ⟨zs, hperm, ?_⟩
  have hid := forall₂_map_eq (g := f) hzs fun _ _ hy => hy
  rw [← hid, List.map_id']

theorem exists_perm_map_iff {γ : Type*} {f : α → β} {g : β → γ} {xs : List α} {os : List γ} :
    (∃ zs : List α, zs.Perm xs ∧ os = zs.map fun x => g (f x)) ↔
      ∃ ys : List β, ys.Perm (xs.map f) ∧ os = ys.map g := by
  refine ⟨?_, ?_⟩
  · rintro ⟨zs, hperm, rfl⟩
    exact ⟨zs.map f, hperm.map f, List.map_map.symm⟩
  · rintro ⟨ys, hperm, rfl⟩
    obtain ⟨zs, hzs, rfl⟩ := exists_perm_map hperm
    exact ⟨zs, hzs, List.map_map⟩

/-- The elements with one of these keys. -/
theorem perm_filter_mem [DecidableEq β] {f : α → β} {xs : List α} {ys : List β}
    (hxs : (xs.map f).Nodup) (hys : ys.Nodup) (h : ∀ y ∈ ys, y ∈ xs.map f) :
    ((xs.filter fun x => f x ∈ ys).map f).Perm ys := by
  refine (List.perm_ext_iff_of_nodup (hxs.sublist (List.filter_sublist.map f)) hys).2 fun y =>
    ⟨fun hy => ?_, fun hy => ?_⟩
  · obtain ⟨x, hx, rfl⟩ := List.mem_map.1 hy
    exact of_decide_eq_true (List.mem_filter.1 hx).2
  · obtain ⟨x, hx, rfl⟩ := List.mem_map.1 (h y hy)
    exact List.mem_map_of_mem (List.mem_filter.2 ⟨hx, decide_eq_true hy⟩)

/-- A `mapM` over the elements in some order, against one over the elements in theirs. -/
theorem exists_perm_mapM {f : α → Option β} {xs : List α} {o : Option (List β)} :
    (∃ zs : List α, zs.Perm xs ∧ zs.mapM f = o) ↔ Option.Rel List.Perm o (xs.mapM f) := by
  refine ⟨?_, fun h => ?_⟩
  · rintro ⟨zs, hperm, rfl⟩
    cases hxs : xs.mapM f with
    | some ys =>
      obtain ⟨ws, hws, hys⟩ := List.perm_comp_forall₂ hperm (mapM_eq_some.1 hxs)
      rw [mapM_eq_some.2 hws]
      exact .some hys
    | none =>
      cases hzs : zs.mapM f with
      | none => exact .none
      | some ws =>
        have hsome : ∀ x ∈ xs, ∃ y, f x = some y := fun x hx => by
          obtain ⟨y, -, hy⟩ := forall₂_mem_left (mapM_eq_some.1 hzs) (hperm.symm.subset hx)
          exact ⟨y, hy⟩
        obtain ⟨ys, hys⟩ := mapM_isSome hsome
        rw [hys] at hxs
        cases hxs
  · cases hxs : xs.mapM f with
    | none =>
      rw [hxs] at h
      cases h
      exact ⟨xs, List.Perm.refl xs, hxs⟩
    | some ys =>
      rw [hxs] at h
      cases h with
      | some hperm =>
        obtain ⟨zs, hzs, hxs⟩ := List.perm_comp_forall₂ hperm (mapM_eq_some.1 hxs).flip
        exact ⟨zs, hxs, mapM_eq_some.2 hzs.flip⟩

theorem mapM_congr {f g : α → Option β} {xs : List α} (h : ∀ x ∈ xs, f x = g x) :
    xs.mapM f = xs.mapM g := by
  induction xs with
  | nil => rfl
  | cons x xs ih =>
    rw [List.mapM_cons, List.mapM_cons, h x List.mem_cons_self,
      ih fun y hy => h y (List.mem_cons_of_mem x hy)]

theorem mapM_of_forall {f : α → Option β} {g : α → β} {xs : List α} (h : ∀ x ∈ xs, f x = some (g x)) :
    xs.mapM f = some (xs.map g) :=
  mapM_eq_some.2 (List.forall₂_map_right_iff.2 (List.forall₂_same.2 h))

theorem subperm_filterMap (f : α → Option β) {xs ys : List α} (h : xs.Subperm ys) :
    (xs.filterMap f).Subperm (ys.filterMap f) := by
  obtain ⟨zs, hperm, hsub⟩ := h
  exact ⟨zs.filterMap f, hperm.filterMap f, hsub.filterMap f⟩

theorem flatMap_filter {f : α → List β} {p : α → Bool} (h : ∀ x, f x ≠ [] → p x = true)
    (xs : List α) : (xs.filter p).flatMap f = xs.flatMap f := by
  induction xs with
  | nil => rfl
  | cons x xs ih =>
    by_cases hx : p x = true
    · rw [List.filter_cons_of_pos hx, List.flatMap_cons, List.flatMap_cons, ih]
    · have hnil : f x = [] := not_not.1 fun hne => hx (h x hne)
      rw [List.filter_cons_of_neg hx, List.flatMap_cons, hnil, ih, List.nil_append]

/-- Replacing one element changes a `flatMap` in that element's share only. -/
theorem flatMap_set {l : List α} {i : ℕ} {a : α} (f : α → List β) (h : l[i]? = some a) :
    ∃ rest, (l.flatMap f).Perm (f a ++ rest) ∧
      ∀ b, ((l.set i b).flatMap f).Perm (f b ++ rest) := by
  obtain ⟨hi, rfl⟩ := List.getElem?_eq_some_iff.1 h
  refine ⟨(l.eraseIdx i).flatMap f, ?_, fun b => ?_⟩
  · exact ((List.getElem_cons_eraseIdx_perm hi).symm.flatMap_right f)
  · have hi' : i < (l.set i b).length := by simpa using hi
    have := (List.getElem_cons_eraseIdx_perm hi').symm.flatMap_right f
    rwa [List.getElem_set_self, List.eraseIdx_set_eq] at this

theorem mem_flatMap_set {l : List α} {i : ℕ} {b : α} {f : α → List β} {x : β}
    (h : x ∈ (l.set i b).flatMap f) : x ∈ f b ∨ x ∈ l.flatMap f := by
  obtain ⟨a, ha, hx⟩ := List.mem_flatMap.1 h
  rcases List.mem_or_eq_of_mem_set ha with ha | rfl
  · exact Or.inr (List.mem_flatMap.2 ⟨a, ha, hx⟩)
  · exact Or.inl hx

end Lists
