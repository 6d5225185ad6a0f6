import Mathlib.Data.List.Nodup
import Mathlib.Algebra.Order.BigOperators.Group.List
import Mathlib.Tactic.Ring

/-!
# Keyed tables

A table is a list of rows whose keys are pairwise distinct.  The list order is
the order of insertion.  Uniqueness of keys is a field of the structure, so a
table with two rows under one key cannot be built.

The operations are the three that a store without deletion needs: look a row up
by its key, insert a row under a fresh key, and replace the row under a key.
Every sum over a table is described across the two writing operations.
-/

namespace AgentRank.Relational

universe u v

/-- Rows of type `ρ` are identified by a key of type `κ`. -/
class Keyed (ρ : Type u) (κ : outParam (Type v)) where
  key : ρ → κ

/-- A list of rows with pairwise distinct keys. -/
structure Table (ρ : Type u) {κ : Type v} [Keyed ρ κ] where
  rows : List ρ
  keysNodup : (rows.map Keyed.key).Nodup

namespace Table

variable {ρ : Type u} {κ : Type v} [Keyed ρ κ]

instance : Membership ρ (Table ρ) where
  mem table row := row ∈ table.rows

variable {table : Table ρ}

theorem mem_def {row : ρ} : row ∈ table ↔ row ∈ table.rows :=
  Iff.rfl

instance [DecidableEq ρ] (row : ρ) (table : Table ρ) : Decidable (row ∈ table) :=
  inferInstanceAs (Decidable (row ∈ table.rows))

/-- The table without rows. -/
def empty : Table ρ where
  rows := []
  keysNodup := List.nodup_nil

@[simp]
theorem not_mem_empty (row : ρ) : row ∉ (empty : Table ρ) :=
  List.not_mem_nil

/-- Tables with the same rows are the same table. -/
@[ext]
theorem ext {first second : Table ρ} (sameRows : first.rows = second.rows) :
    first = second := by
  cases first
  cases second
  cases sameRows
  rfl

/-- Two rows of one table under one key are the same row. -/
theorem eq_of_key_eq {first second : ρ} (firstMem : first ∈ table) (secondMem : second ∈ table)
    (keyEq : Keyed.key first = Keyed.key second) : first = second :=
  List.inj_on_of_nodup_map table.keysNodup firstMem secondMem keyEq

section Lookup

variable [DecidableEq κ]

/-- The row under a key, when there is one. -/
def get? (table : Table ρ) (key : κ) : Option ρ :=
  table.rows.find? fun row => decide (Keyed.key row = key)

/-- Lookup finds a row exactly when the table holds it under that key. -/
theorem get?_eq_some_iff {key : κ} {row : ρ} :
    table.get? key = some row ↔ row ∈ table ∧ Keyed.key row = key := by
  constructor
  · intro found
    exact ⟨List.mem_of_find?_eq_some found, by simpa using List.find?_some found⟩
  · rintro ⟨member, rfl⟩
    cases found : table.get? (Keyed.key row) with
    | none =>
        have absent := List.find?_eq_none.mp found row member
        simp at absent
    | some other =>
        have otherMem : other ∈ table := List.mem_of_find?_eq_some found
        have otherKey : Keyed.key other = Keyed.key row := by
          simpa using List.find?_some found
        rw [eq_of_key_eq otherMem member otherKey]

theorem get?_key {row : ρ} (member : row ∈ table) :
    table.get? (Keyed.key row) = some row :=
  get?_eq_some_iff.mpr ⟨member, rfl⟩

end Lookup

/-- Append a row under a key that no row carries yet. -/
def insert (table : Table ρ) (row : ρ)
    (fresh : ∀ other ∈ table, Keyed.key other ≠ Keyed.key row) : Table ρ where
  rows := table.rows ++ [row]
  keysNodup := by
    rw [List.map_append, List.nodup_append]
    refine ⟨table.keysNodup, List.nodup_singleton _, ?_⟩
    intro key keyMem single singleMem
    simp only [List.map_cons, List.map_nil, List.mem_singleton] at singleMem
    rcases List.mem_map.mp keyMem with ⟨other, otherMem, rfl⟩
    rw [singleMem]
    exact fresh other otherMem

/-- Insertion that fails on a key already present. -/
def insert? [DecidableEq κ] (table : Table ρ) (row : ρ) : Option (Table ρ) :=
  if fresh : ∀ other ∈ table.rows, Keyed.key other ≠ Keyed.key row then
    some (table.insert row fresh)
  else none

variable {result : Table ρ}

/-- A successful insertion had a fresh key and appended exactly one row. -/
theorem insert?_eq_some_iff [DecidableEq κ] {row : ρ} :
    table.insert? row = some result ↔
      (∀ other ∈ table, Keyed.key other ≠ Keyed.key row) ∧
        result.rows = table.rows ++ [row] := by
  unfold insert?
  split
  · next fresh =>
      constructor
      · intro made
        cases made
        exact ⟨fresh, rfl⟩
      · rintro ⟨_, rowsEq⟩
        exact congrArg some (Table.ext rowsEq.symm)
  · next taken =>
      constructor
      · intro made
        cases made
      · rintro ⟨fresh, _⟩
        exact absurd fresh taken

/-- An insertion fails exactly on a key already present. -/
theorem insert?_eq_none_iff [DecidableEq κ] {row : ρ} :
    table.insert? row = none ↔ ∃ other ∈ table, Keyed.key other = Keyed.key row := by
  unfold insert?
  split
  · next fresh =>
      refine ⟨nofun, ?_⟩
      rintro ⟨other, member, sameKey⟩
      exact absurd sameKey (fresh other member)
  · next taken =>
      simp only [not_forall, not_not] at taken
      rcases taken with ⟨other, member, sameKey⟩
      exact ⟨fun _ => ⟨other, member, sameKey⟩, fun _ => rfl⟩

/-- The rows after an insertion. -/
theorem mem_insert?_iff [DecidableEq κ] {row other : ρ}
    (inserted : table.insert? row = some result) :
    other ∈ result ↔ other ∈ table ∨ other = row := by
  rw [mem_def, (insert?_eq_some_iff.mp inserted).2, List.mem_append, List.mem_singleton]
  rfl

/-- Insertion of several rows, which fails on the first key already present. -/
def insertAll? [DecidableEq κ] (table : Table ρ) : List ρ → Option (Table ρ)
  | [] => some table
  | row :: rest => (table.insert? row).bind fun inserted => inserted.insertAll? rest

theorem insertAll?_rows [DecidableEq κ] {rows : List ρ}
    (inserted : table.insertAll? rows = some result) : result.rows = table.rows ++ rows := by
  induction rows generalizing table with
  | nil =>
      cases inserted
      exact (List.append_nil _).symm
  | cons row rest ih =>
      obtain ⟨first, isFirst, later⟩ := Option.bind_eq_some_iff.mp inserted
      rw [ih later, (insert?_eq_some_iff.mp isFirst).2, List.append_assoc]
      rfl

theorem mem_insertAll?_iff [DecidableEq κ] {rows : List ρ} {row : ρ}
    (inserted : table.insertAll? rows = some result) : row ∈ result ↔ row ∈ table ∨ row ∈ rows := by
  rw [mem_def, insertAll?_rows inserted, List.mem_append, ← mem_def]

/-- An insertion does not concern the rows under other keys. -/
theorem get?_insert?_of_ne [DecidableEq κ] {row : ρ} {key : κ}
    (inserted : table.insert? row = some result) (otherKey : Keyed.key row ≠ key) :
    result.get? key = table.get? key := by
  unfold get?
  rw [(insert?_eq_some_iff.mp inserted).2, List.find?_append, List.find?_singleton,
    if_neg (by simpa using otherKey), Option.or_none]

/-! ## Replacement -/

section Replacement

variable [DecidableEq κ]

/-- Replace the row that carries the key of `row`.  Nothing happens when there
is none. -/
def set (table : Table ρ) (row : ρ) : Table ρ where
  rows := table.rows.map fun other =>
    if Keyed.key other = Keyed.key row then row else other
  keysNodup := by
    have sameKeys :
        (table.rows.map fun other =>
          if Keyed.key other = Keyed.key row then row else other).map Keyed.key =
            table.rows.map Keyed.key := by
      rw [List.map_map]
      apply List.map_congr_left
      intro other _
      by_cases sameKey : Keyed.key other = Keyed.key row <;> simp [sameKey]
    rw [sameKeys]
    exact table.keysNodup

/-- The rows after a replacement: the new row in place of the old one, and
every row under another key. -/
theorem mem_set_iff {table : Table ρ} {old row other : ρ} (oldMem : old ∈ table)
    (oldKey : Keyed.key old = Keyed.key row) :
    other ∈ table.set row ↔
      other = row ∨ other ∈ table ∧ Keyed.key other ≠ Keyed.key row := by
  simp only [mem_def, set, List.mem_map]
  constructor
  · rintro ⟨source, sourceMem, rfl⟩
    by_cases sameKey : Keyed.key source = Keyed.key row
    · exact Or.inl (if_pos sameKey)
    · rw [if_neg sameKey]
      exact Or.inr ⟨sourceMem, sameKey⟩
  · rintro (rfl | ⟨otherMem, otherKey⟩)
    · exact ⟨old, oldMem, if_pos oldKey⟩
    · exact ⟨other, otherMem, if_neg otherKey⟩

/-- The rows after a replacement: the new row in place of the old one, and every
other row. -/
theorem mem_set_iff_ne {old row other : ρ} (oldMem : old ∈ table)
    (oldKey : Keyed.key old = Keyed.key row) :
    other ∈ table.set row ↔ other = row ∨ other ∈ table ∧ other ≠ old := by
  rw [mem_set_iff oldMem oldKey]
  apply or_congr_right
  constructor
  · rintro ⟨otherMem, otherKey⟩
    refine ⟨otherMem, ?_⟩
    rintro rfl
    exact otherKey oldKey
  · rintro ⟨otherMem, otherOld⟩
    refine ⟨otherMem, ?_⟩
    intro sameKey
    exact otherOld (eq_of_key_eq otherMem oldMem (sameKey.trans oldKey.symm))

/-- Replacing a row by one that stands in no relation to the others keeps every
row it does not concern. -/
theorem mem_set_of_ne {row other : ρ} (otherMem : other ∈ table)
    (otherKey : Keyed.key other ≠ Keyed.key row) : other ∈ table.set row :=
  List.mem_map.mpr ⟨other, otherMem, if_neg otherKey⟩

/-- When the written row is related to the one it replaces, every row is related to one
that stands after the replacement. -/
theorem exists_mem_set {relation : ρ → ρ → Prop} {old row other : ρ} (oldMem : old ∈ table)
    (oldKey : Keyed.key old = Keyed.key row) (related : relation old row)
    (reflexive : ∀ same, relation same same) (otherMem : other ∈ table) :
    ∃ next ∈ table.set row, relation other next := by
  by_cases sameKey : Keyed.key other = Keyed.key row
  · rw [eq_of_key_eq otherMem oldMem (sameKey.trans oldKey.symm)]
    exact ⟨row, (mem_set_iff oldMem oldKey).mpr (Or.inl rfl), related⟩
  · exact ⟨other, mem_set_of_ne otherMem sameKey, reflexive other⟩

/-- Writing a row that is already there changes nothing. -/
theorem set_of_mem {row : ρ} (member : row ∈ table) :
    table.set row = table := by
  apply Table.ext
  change table.rows.map _ = table.rows
  conv_rhs => rw [← List.map_id table.rows]
  apply List.map_congr_left
  intro other otherMem
  by_cases sameKey : Keyed.key other = Keyed.key row
  · rw [if_pos sameKey, eq_of_key_eq otherMem member sameKey]
    rfl
  · rw [if_neg sameKey]
    rfl

theorem get?_set_self {old row : ρ} (oldMem : old ∈ table)
    (oldKey : Keyed.key old = Keyed.key row) :
    (table.set row).get? (Keyed.key row) = some row :=
  get?_eq_some_iff.mpr ⟨(mem_set_iff oldMem oldKey).mpr (Or.inl rfl), rfl⟩

/-- A replacement does not concern the rows under other keys. -/
theorem get?_set_of_ne {row : ρ} {key : κ} (otherKey : Keyed.key row ≠ key) :
    (table.set row).get? key = table.get? key := by
  obtain ⟨rows, keysNodup⟩ := table
  simp only [get?, set]
  clear keysNodup
  induction rows with
  | nil => rfl
  | cons first rest ih =>
      rw [List.map_cons, List.find?_cons, List.find?_cons, ih]
      by_cases sameKey : Keyed.key first = Keyed.key row
      · have firstKey : Keyed.key first ≠ key := by
          rw [sameKey]
          exact otherKey
        simp [sameKey, otherKey]
      · simp [sameKey]

end Replacement

/-- The sum of a measure over the rows. -/
def total (measure : ρ → Nat) (table : Table ρ) : Nat :=
  (table.rows.map measure).sum

theorem total_of_rows_append {measure : ρ → Nat} {row : ρ}
    (rowsEq : result.rows = table.rows ++ [row]) :
    total measure result = total measure table + measure row := by
  simp [total, rowsEq]

/-- A pointwise bound carries over to the sums. -/
theorem total_le_total {first second : ρ → Nat} (bound : ∀ row ∈ table, first row ≤ second row) :
    total first table ≤ total second table :=
  List.sum_le_sum bound

/-- One row contributes at most the whole sum. -/
theorem le_total {measure : ρ → Nat} {row : ρ} (member : row ∈ table) :
    measure row ≤ total measure table :=
  List.le_sum_of_mem (List.mem_map.mpr ⟨row, member, rfl⟩)

/-- Replacing a row moves a sum by the difference of the two rows. -/
theorem total_set [DecidableEq κ] (measure : ρ → Nat) {old row : ρ} (oldMem : old ∈ table)
    (oldKey : Keyed.key old = Keyed.key row) :
    total measure (table.set row) + measure old =
      total measure table + measure row := by
  obtain ⟨rows, keysNodup⟩ := table
  simp only [total, set]
  change old ∈ rows at oldMem
  induction rows with
  | nil => cases oldMem
  | cons first rest ih =>
      rw [List.map_cons, List.nodup_cons] at keysNodup
      rcases List.mem_cons.mp oldMem with rfl | oldRest
      · have untouched :
            (rest.map fun other =>
              if Keyed.key other = Keyed.key row then row else other) = rest := by
          conv_rhs => rw [← List.map_id rest]
          apply List.map_congr_left
          intro other otherMem
          have otherKey : Keyed.key other ≠ Keyed.key row := by
            intro sameKey
            apply keysNodup.1
            rw [oldKey, ← sameKey]
            exact List.mem_map_of_mem otherMem
          simp [otherKey]
        rw [List.map_cons, if_pos oldKey, untouched, List.map_cons, List.map_cons,
          List.sum_cons, List.sum_cons]
        ring
      · have firstKey : Keyed.key first ≠ Keyed.key row := by
          intro sameKey
          apply keysNodup.1
          rw [sameKey, ← oldKey]
          exact List.mem_map_of_mem oldRest
        have restEq := ih keysNodup.2 oldRest
        rw [List.map_cons, if_neg firstKey, List.map_cons, List.map_cons,
          List.sum_cons, List.sum_cons]
        rw [add_assoc, restEq, add_assoc]

end Table

end AgentRank.Relational
