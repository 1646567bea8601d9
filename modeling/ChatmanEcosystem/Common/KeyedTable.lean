import Mathlib.Data.List.Nodup

/-!
# Tables with a unique key

The rows of a table with a `UNIQUE` constraint, in the order of their insertion. A
row is inserted, or merged into the row that has its key; and rows are changed
without their keys.

Results:

* `KeyedTable.eq_of_key`: a key has one row.
* `KeyedTable.mem_modify_iff`, `KeyedTable.mem_upsert_iff`: the rows after a write.
-/

namespace ChatmanEcosystem.Common

variable {ρ κ : Type*}

/-- Rows with different keys. -/
structure KeyedTable (key : ρ → κ) where
  rows : List ρ
  unique : (rows.map key).Nodup

namespace KeyedTable

variable {key : ρ → κ}

/-- No rows. -/
def empty : KeyedTable key where
  rows := []
  unique := List.nodup_nil

/-- The rows are changed, and keep their keys. -/
def modify (table : KeyedTable key) (f : ρ → ρ) (hf : ∀ row, key (f row) = key row) :
    KeyedTable key where
  rows := table.rows.map f
  unique := by
    have hkeys : (table.rows.map f).map key = table.rows.map key := by
      rw [List.map_map]
      exact List.map_congr_left fun row _ => hf row
    rw [hkeys]
    exact table.unique

/-- The row is inserted, or the row that has its key is merged with it. -/
def upsert [DecidableEq κ] (table : KeyedTable key) (row : ρ) (merge : ρ → ρ)
    (hmerge : ∀ old, key (merge old) = key old) : KeyedTable key :=
  if h : key row ∈ table.rows.map key then
    table.modify (fun old => if key old = key row then merge old else old) fun old => by
      split_ifs
      · exact hmerge old
      · rfl
  else
    { rows := table.rows ++ [row]
      unique := by
        rw [List.map_append]
        refine List.nodup_append.mpr ⟨table.unique, List.pairwise_singleton _ _, ?_⟩
        intro k hk other hother hsame
        rw [hsame, List.mem_singleton.mp hother] at hk
        exact h hk }

/-- There is a row for the key. -/
def Has (table : KeyedTable key) (k : κ) : Prop := ∃ row ∈ table.rows, key row = k

/-- A row with a new key is put at the end. -/
def insert (table : KeyedTable key) (row : ρ) (h : key row ∉ table.rows.map key) :
    KeyedTable key where
  rows := table.rows ++ [row]
  unique := by
    rw [List.map_append]
    refine List.nodup_append.mpr ⟨table.unique, List.pairwise_singleton _ _, ?_⟩
    intro k hk other hother hsame
    rw [hsame, List.mem_singleton.mp hother] at hk
    exact h hk

/-- The row of a key. -/
def find? [DecidableEq κ] (table : KeyedTable key) (k : κ) : Option ρ :=
  table.rows.find? (key · = k)

variable {table : KeyedTable key} {row other : ρ}

theorem has_iff {k : κ} : table.Has k ↔ k ∈ table.rows.map key := List.mem_map.symm

theorem eq_of_key (hrow : row ∈ table.rows) (hother : other ∈ table.rows)
    (h : key row = key other) : row = other :=
  List.inj_on_of_nodup_map table.unique hrow hother h

theorem find?_eq_none_iff [DecidableEq κ] {k : κ} :
    table.find? k = none ↔ k ∉ table.rows.map key := by
  simp [find?, List.find?_eq_none]

/-- A row is found under its own key. -/
theorem key_of_find? [DecidableEq κ] {k : κ} (h : table.find? k = some row) : key row = k := by
  simpa using List.find?_some h

/-- The row of a key after the rows were changed. -/
theorem find?_modify [DecidableEq κ] {f : ρ → ρ} {hf : ∀ row, key (f row) = key row} (k : κ) :
    (table.modify f hf).find? k = (table.find? k).map f := by
  have hkey : (fun row => decide (key row = k)) ∘ f = fun row => decide (key row = k) := by
    funext row
    simp [hf row]
  rw [find?, find?, modify, List.find?_map, hkey]

/-- The row of a key after a row was inserted. -/
theorem find?_insert [DecidableEq κ] {h : key row ∉ table.rows.map key} (k : κ) :
    (table.insert row h).find? k = if key row = k then some row else table.find? k := by
  rw [find?, insert, List.find?_append, ← find?]
  by_cases heq : key row = k
  · subst heq
    rw [find?_eq_none_iff.mpr h]
    simp
  · simp [heq]

theorem mem_modify_iff {f : ρ → ρ} {hf : ∀ row, key (f row) = key row} :
    other ∈ (table.modify f hf).rows ↔ ∃ row ∈ table.rows, f row = other := List.mem_map

/-- The others, the row with the key as it is merged, or the row itself. -/
theorem mem_upsert_iff [DecidableEq κ] {merge : ρ → ρ}
    {hmerge : ∀ old, key (merge old) = key old} :
    other ∈ (table.upsert row merge hmerge).rows ↔
      (other ∈ table.rows ∧ key other ≠ key row) ∨
      (∃ old ∈ table.rows, key old = key row ∧ other = merge old) ∨
      (¬ table.Has (key row) ∧ other = row) := by
  rw [has_iff]
  unfold upsert
  split_ifs with h
  · rw [mem_modify_iff]
    constructor
    · rintro ⟨old, hold, rfl⟩
      split_ifs with hkey
      · exact .inr (.inl ⟨old, hold, hkey, rfl⟩)
      · exact .inl ⟨hold, hkey⟩
    · rintro (⟨hother, hkey⟩ | ⟨old, hold, hkey, rfl⟩ | ⟨hnot, -⟩)
      · exact ⟨other, hother, if_neg hkey⟩
      · exact ⟨old, hold, if_pos hkey⟩
      · exact absurd h hnot
  · have hne : ∀ old ∈ table.rows, key old ≠ key row := fun old hold hkey =>
      h (hkey ▸ List.mem_map_of_mem hold)
    rw [List.mem_append, List.mem_singleton]
    constructor
    · rintro (hold | rfl)
      · exact .inl ⟨hold, hne other hold⟩
      · exact .inr (.inr ⟨h, rfl⟩)
    · rintro (⟨hold, -⟩ | ⟨old, hold, hkey, -⟩ | ⟨-, rfl⟩)
      · exact .inl hold
      · exact absurd hkey (hne old hold)
      · exact .inr rfl

end KeyedTable

end ChatmanEcosystem.Common
