import Mathlib.Data.List.Nodup
import Mathlib.Data.List.Basic

/-! Tables with an `INTEGER PRIMARY KEY AUTOINCREMENT` column: the rows in
insertion order with their rowids, and the largest rowid ever handed out. A
table is read through `get?`, so that a statement about a row never depends on
where the row is stored. -/

/-- The largest rowid, `2 ^ 63 - 1`. -/
def maxRowid : Int := 9223372036854775807

structure Table (α : Type*) where
  rows : List (Int × α)
  /-- the `sqlite_sequence` entry: no rowid up to it is handed out again -/
  seq : Int
  seq_nonneg : 0 ≤ seq
  nodup : (rows.map Prod.fst).Nodup
  bound : ∀ r ∈ rows, 0 < r.1 ∧ r.1 ≤ seq

namespace Table

variable {α : Type*}

def empty : Table α := ⟨[], 0, Int.le_refl 0, List.nodup_nil, by simp⟩

/-- The row with the given rowid. -/
def get? (t : Table α) (id : Int) : Option α := (t.rows.find? fun r => r.1 = id).map Prod.snd

theorem get?_eq_some {t : Table α} {id : Int} {a : α} : t.get? id = some a ↔ (id, a) ∈ t.rows := by
  have hn := t.nodup
  unfold get?
  generalize t.rows = rows at hn ⊢
  induction rows with
  | nil => simp
  | cons r rows ih =>
    rw [List.map_cons, List.nodup_cons] at hn
    by_cases hr : r.1 = id
    · have hmem : (id, a) ∉ rows := fun h => hn.1 (hr ▸ List.mem_map_of_mem h)
      simp only [List.find?_cons, hr, decide_true, Option.map_some, Option.some.injEq,
        List.mem_cons, hmem, or_false]
      refine ⟨?_, ?_⟩
      · rintro rfl; exact Prod.ext hr.symm rfl
      · rintro rfl; rfl
    · simp only [List.find?_cons, hr, decide_false, ih hn.2, List.mem_cons]
      refine ⟨?_, ?_⟩
      · exact Or.inr
      · rintro (rfl | h)
        · exact absurd rfl hr
        · exact h

/-- The row with a rowid, as a list. -/
theorem filter_id (t : Table α) (id : Int) :
    (t.rows.filter fun r => id = r.1) = (t.get? id).toList.map fun a => (id, a) := by
  have hn := t.nodup
  unfold get?
  generalize t.rows = rows at hn ⊢
  induction rows with
  | nil => rfl
  | cons r rows ih =>
    rw [List.map_cons, List.nodup_cons] at hn
    by_cases hr : id = r.1
    · subst hr
      have hrest : (rows.filter fun r' => r.1 = r'.1) = [] :=
        List.filter_eq_nil_iff.2 fun r' hr' hid =>
          hn.1 (of_decide_eq_true hid ▸ List.mem_map_of_mem hr')
      rw [List.filter_cons_of_pos (by simp), List.find?_cons_of_pos (by simp), hrest]
      rfl
    · rw [List.filter_cons_of_neg (by simpa using hr),
        List.find?_cons_of_neg (by simpa using Ne.symm hr), ih hn.2]

@[simp] theorem get?_empty (id : Int) : (empty : Table α).get? id = none := rfl

theorem pos_of_get? {t : Table α} {id : Int} {a : α} (h : t.get? id = some a) : 0 < id :=
  (t.bound _ (get?_eq_some.1 h)).1

theorem le_seq_of_get? {t : Table α} {id : Int} {a : α} (h : t.get? id = some a) : id ≤ t.seq :=
  (t.bound _ (get?_eq_some.1 h)).2

theorem get?_of_seq_lt {t : Table α} {id : Int} (h : t.seq < id) : t.get? id = none := by
  cases ha : t.get? id with
  | none => rfl
  | some a => have := le_seq_of_get? ha; omega

/-- `UPDATE … SET f WHERE p`. The rowid is not assignable. -/
def update (t : Table α) (p : Int → α → Bool) (f : Int → α → α) : Table α where
  rows := t.rows.map fun r => (r.1, if p r.1 r.2 then f r.1 r.2 else r.2)
  seq := t.seq
  seq_nonneg := t.seq_nonneg
  nodup := by simpa [List.map_map, Function.comp_def] using t.nodup
  bound := by
    intro r hr
    obtain ⟨r', hr', rfl⟩ := List.mem_map.1 hr
    exact t.bound r' hr'

theorem get?_update (t : Table α) (p : Int → α → Bool) (f : Int → α → α) (id : Int) :
    (t.update p f).get? id = (t.get? id).map fun a => if p id a then f id a else a := by
  unfold get? update
  simp only [List.find?_map, Option.map_map, Function.comp_def]
  cases h : t.rows.find? fun r => r.1 = id with
  | none => rfl
  | some r =>
    have hr : r.1 = id := by simpa using List.find?_some h
    simp [hr]

/-- A multi-row `INSERT`: consecutive rowids above every earlier one. -/
def append (t : Table α) (as : List α) : Table α where
  rows := t.rows ++ as.mapIdx fun i a => (t.seq + 1 + i, a)
  seq := t.seq + as.length
  seq_nonneg := by have := t.seq_nonneg; omega
  nodup := by
    rw [List.map_append, List.nodup_append]
    refine ⟨t.nodup, ?_, ?_⟩
    · rw [List.nodup_iff_injective_getElem]
      intro i j h
      simp only [List.getElem_map, List.getElem_mapIdx] at h
      ext; omega
    · intro x hx y hy hxy
      obtain ⟨r, hr, rfl⟩ := List.mem_map.1 hx
      obtain ⟨r', hr', rfl⟩ := List.mem_map.1 hy
      obtain ⟨i, hi, rfl⟩ := List.mem_mapIdx.1 hr'
      have := (t.bound r hr).2
      simp only at hxy
      omega
  bound := by
    intro r hr
    rcases List.mem_append.1 hr with hr | hr
    · have := t.bound r hr; constructor <;> omega
    · obtain ⟨i, hi, rfl⟩ := List.mem_mapIdx.1 hr
      have := t.seq_nonneg
      constructor <;> simp only <;> omega

@[simp] theorem seq_append (t : Table α) (as : List α) :
    (t.append as).seq = t.seq + as.length := rfl

theorem mem_rows_append {t : Table α} {as : List α} {id : Int} {a : α} :
    (id, a) ∈ (t.append as).rows ↔
      (id, a) ∈ t.rows ∨ ∃ i : ℕ, id = t.seq + 1 + i ∧ as[i]? = some a := by
  simp only [append, List.mem_append, List.mem_mapIdx, Prod.mk.injEq]
  refine or_congr_right ⟨?_, ?_⟩
  · rintro ⟨i, hi, rfl, rfl⟩; exact ⟨i, rfl, List.getElem?_eq_getElem hi⟩
  · rintro ⟨i, rfl, h⟩
    obtain ⟨hi, rfl⟩ := List.getElem?_eq_some_iff.1 h
    exact ⟨i, hi, rfl, rfl⟩

theorem get?_append_old {t : Table α} {as : List α} {id : Int} (h : id ≤ t.seq) :
    (t.append as).get? id = t.get? id := by
  ext a
  rw [get?_eq_some, get?_eq_some, mem_rows_append]
  refine ⟨?_, ?_⟩
  · rintro (h' | ⟨i, hi, -⟩)
    · exact h'
    · omega
  · exact Or.inl

theorem get?_append_new {t : Table α} {as : List α} (i : ℕ) :
    (t.append as).get? (t.seq + 1 + i) = as[i]? := by
  ext a
  rw [get?_eq_some, mem_rows_append]
  refine ⟨?_, ?_⟩
  · rintro (h | ⟨j, hj, hja⟩)
    · have := (t.bound _ h).2; simp only at this; omega
    · rwa [show i = j by omega]
  · exact fun h => Or.inr ⟨i, rfl, h⟩

/-- Every rowid is an old one or one of the new ones. -/
theorem get?_append_cases {t : Table α} {as : List α} {id : Int} {a : α}
    (h : (t.append as).get? id = some a) :
    t.get? id = some a ∨ ∃ i : ℕ, id = t.seq + 1 + i ∧ as[i]? = some a := by
  rwa [get?_eq_some, mem_rows_append, ← get?_eq_some] at h

theorem get?_append_ne_none {t : Table α} {as : List α} {id : Int} :
    (t.append as).get? id ≠ none ↔ t.get? id ≠ none ∨ t.seq < id ∧ id ≤ t.seq + as.length := by
  by_cases hold : id ≤ t.seq
  · rw [get?_append_old hold, or_iff_left (by omega)]
  · obtain ⟨i, rfl⟩ : ∃ i : ℕ, id = t.seq + 1 + i := ⟨(id - t.seq - 1).toNat, by omega⟩
    rw [get?_append_new, get?_of_seq_lt (by omega), Ne, List.getElem?_eq_none_iff]
    simp only [ne_eq, not_true_eq_false, false_or]
    omega

theorem append_append (t : Table α) (as bs : List α) :
    (t.append as).append bs = t.append (as ++ bs) := by
  unfold append
  simp only [Table.mk.injEq, List.append_assoc, List.mapIdx_append, List.length_append]
  refine ⟨?_, by omega⟩
  congr 2
  apply List.ext_getElem (by simp)
  intro i h1 h2
  simp only [List.getElem_mapIdx, Prod.mk.injEq, and_true]
  omega

theorem append_nil (t : Table α) : t.append [] = t := by
  obtain ⟨rows, seq, _, _, _⟩ := t
  simp [append]

/-- The `INSERT` as the database runs it: refused when the rowids are used up. -/
def insert? (t : Table α) (as : List α) : Option (Table α) :=
  if t.seq + as.length ≤ maxRowid then some (t.append as) else none

theorem insert?_eq_some {t t' : Table α} {as : List α} (h : t.insert? as = some t') :
    t' = t.append as := by
  unfold insert? at h
  split at h
  · exact (Option.some.inj h).symm
  · cases h

theorem seq_le_of_insert? {t t' : Table α} {as : List α} (h : t.insert? as = some t') :
    t'.seq ≤ maxRowid := by
  unfold insert? at h
  split at h
  · rename_i hfit
    rwa [← Option.some.inj h]
  · cases h

end Table
