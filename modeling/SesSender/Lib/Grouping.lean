import Mathlib.Algebra.BigOperators.Ring.Finset
import Mathlib.Data.Finmap
import Mathlib.Data.List.Dedup
import Mathlib.Data.Set.Card
import SesSender.Lib.Table

/-! Rows grouped by a key, as `GROUP BY` does it, and pairs collected into a
map, where a later pair replaces an earlier one with its key. -/

namespace Grouping

section GroupBy

variable {α κ : Type*} [DecidableEq κ] {key : α → κ} {rows : List α}

/-- One group for each key that occurs, with its rows in order. -/
def groupBy (key : α → κ) (rows : List α) : List (κ × List α) :=
  (rows.map key).dedup.map fun k => (k, rows.filter fun r => key r = k)

theorem keys_groupBy (key : α → κ) (rows : List α) :
    (groupBy key rows).map Prod.fst = (rows.map key).dedup := by
  simp [groupBy, Function.comp_def]

theorem mem_groupBy {k : κ} {g : List α} :
    (k, g) ∈ groupBy key rows ↔ (∃ r ∈ rows, key r = k) ∧ g = rows.filter fun r => key r = k := by
  simp only [groupBy, List.mem_map, List.mem_dedup, Prod.mk.injEq]
  refine ⟨?_, ?_⟩
  · rintro ⟨k', hk, rfl, rfl⟩; exact ⟨hk, rfl⟩
  · rintro ⟨hk, rfl⟩; exact ⟨k, hk, rfl, rfl⟩

/-- No group is empty. -/
theorem exists_cons_of_mem_groupBy {k : κ} {g : List α} (h : (k, g) ∈ groupBy key rows) :
    ∃ r rs, g = r :: rs ∧ key r = k := by
  obtain ⟨⟨r, hr, hk⟩, rfl⟩ := mem_groupBy.1 h
  cases hg : rows.filter fun r => key r = k with
  | nil => exact absurd (decide_eq_true hk) (List.filter_eq_nil_iff.1 hg r hr)
  | cons r' rs =>
    have hmem : r' ∈ rows.filter fun r => key r = k := hg ▸ List.mem_cons_self
    exact ⟨r', rs, rfl, of_decide_eq_true (List.mem_filter.1 hmem).2⟩

/-- Groups of rows that are made from others, by keys that are. -/
theorem groupBy_map {β ι : Type*} [DecidableEq ι] {f : β → α} (emb : ι → κ) (key' : β → ι)
    (hemb : Function.Injective emb) (hkey : ∀ b, key (f b) = emb (key' b)) (bs : List β) :
    groupBy key (bs.map f) = (groupBy key' bs).map fun g => (emb g.1, g.2.map f) := by
  have hkeys : (bs.map f).map key = (bs.map key').map emb := by
    rw [List.map_map, List.map_map]
    exact List.map_congr_left fun b _ => hkey b
  rw [groupBy, hkeys, List.dedup_map_of_injective hemb, List.map_map, groupBy, List.map_map]
  refine List.map_congr_left fun i _ => ?_
  simp only [Function.comp_apply, List.filter_map, Prod.mk.injEq, true_and]
  congr 1
  refine List.filter_congr fun b _ => ?_
  simp only [Function.comp_apply, hkey, hemb.eq_iff]

theorem length_filter_key (key : α → κ) (rows : List α) (k : κ) :
    (rows.filter fun r => key r = k).length = (rows.map key).count k := by
  rw [List.count, List.countP_map, List.countP_eq_length_filter]
  rfl

/-- Every row is in one group. -/
theorem sum_length_groupBy (key : α → κ) (rows : List α) :
    ((groupBy key rows).map fun g => g.2.length).sum = rows.length := by
  simp only [groupBy, List.map_map, Function.comp_def, length_filter_key]
  rw [List.sum_map_count_dedup_eq_length, List.length_map]

/-- `COUNT(DISTINCT …)` is the size of a set. -/
theorem length_dedup_map (f : α → κ) (rows : List α) :
    (rows.map f).dedup.length = Set.ncard {x | ∃ r ∈ rows, f r = x} := by
  have hset : {x | ∃ r ∈ rows, f r = x} = ((rows.map f).toFinset : Set κ) := by
    ext x
    simp
  rw [hset, Set.ncard_coe_finset, List.card_toFinset]

end GroupBy

/-- `COUNT(*) … WHERE p` counts rowids. -/
theorem length_filter_rows {α : Type*} (t : Table α) (p : α → Prop) [DecidablePred p] :
    (t.rows.filter fun r => p r.2).length = {id | ∃ a, t.get? id = some a ∧ p a}.ncard := by
  have hnodup : ((t.rows.filter fun r => p r.2).map Prod.fst).Nodup :=
    t.nodup.sublist (List.filter_sublist.map _)
  have hlen := length_dedup_map Prod.fst (t.rows.filter fun r => p r.2)
  rw [hnodup.dedup, List.length_map] at hlen
  rw [hlen]
  congr 1
  ext id
  simp [Table.get?_eq_some]

section Collect

variable {κ ν : Type*} {pairs : List (κ × ν)} {k : κ} {v : ν}

variable [DecidableEq κ]

def collect (pairs : List (κ × ν)) : Finmap fun _ : κ => ν :=
  pairs.foldl (fun m p => m.insert p.1 p.2) ∅

theorem collect_append (pairs : List (κ × ν)) (p : κ × ν) :
    collect (pairs ++ [p]) = (collect pairs).insert p.1 p.2 := by
  simp [collect]

/-- What is found under a key was collected under it. -/
theorem mem_of_lookup_collect (h : (collect pairs).lookup k = some v) : (k, v) ∈ pairs := by
  induction pairs using List.reverseRecOn with
  | nil => cases h
  | append_singleton pairs p ih =>
    rw [collect_append] at h
    by_cases hk : k = p.1
    · subst hk
      rw [Finmap.lookup_insert] at h
      simp [← Option.some.inj h]
    · rw [Finmap.lookup_insert_of_ne _ hk] at h
      exact List.mem_append_left _ (ih h)

theorem mem_collect : k ∈ collect pairs ↔ k ∈ pairs.map Prod.fst := by
  induction pairs using List.reverseRecOn with
  | nil => simp [collect, Finmap.notMem_empty]
  | append_singleton pairs p ih =>
    rw [collect_append, Finmap.mem_insert, ih]
    simp [or_comm]

theorem lookup_collect_eq_none : (collect pairs).lookup k = none ↔ k ∉ pairs.map Prod.fst := by
  rw [Finmap.lookup_eq_none, mem_collect]

/-- The sum of the values of a map. -/
def total (f : ν → Int) (m : Finmap fun _ : κ => ν) : Int := (m.entries.map fun e => f e.2).sum

theorem total_collect (f : ν → Int) (hn : (pairs.map Prod.fst).Nodup) :
    total f (collect pairs) = (pairs.map fun p => f p.2).sum := by
  induction pairs using List.reverseRecOn with
  | nil => rfl
  | append_singleton pairs p ih =>
    rw [List.map_append, List.nodup_append] at hn
    obtain ⟨hpairs, -, hdisj⟩ := hn
    have hnew : p.1 ∉ collect pairs := by
      rw [mem_collect]
      exact fun hmem => hdisj _ hmem _ (by simp) rfl
    rw [collect_append, total, Finmap.entries_insert_of_notMem hnew, Multiset.map_cons,
      Multiset.sum_cons, List.map_append, List.sum_append]
    have hrest := ih hpairs
    unfold total at hrest
    rw [hrest]
    simp [Int.add_comm]

end Collect

end Grouping
