import AgentRank.Relational.Table

/-!
# Unique marks and changes of a whole table

Besides its key a row may carry a mark that no other row carries.  A statement that writes
some columns of every row keeps the keys, and it keeps the marks it does not write.  A
statement that deletes rows leaves the others as they are.
-/

namespace AgentRank.Relational

universe u v w

variable {ρ : Type u} {κ : Type v} [Keyed ρ κ] {μ : Type w}

namespace Table

/-- No two rows carry the same mark. -/
def Unique (mark : ρ → μ) (table : Table ρ) : Prop :=
  ∀ first ∈ table, ∀ second ∈ table, mark first = mark second → first = second

/-- Change every row. -/
def amend (table : Table ρ) (change : ρ → ρ)
    (keeps : ∀ row, Keyed.key (change row) = Keyed.key row) : Table ρ where
  rows := table.rows.map change
  keysNodup := by
    have sameKeys : (table.rows.map change).map Keyed.key = table.rows.map Keyed.key := by
      rw [List.map_map]
      exact List.map_congr_left fun row _ => keeps row
    rw [sameKeys]
    exact table.keysNodup

variable {table : Table ρ} {change : ρ → ρ} {mark : ρ → μ}

@[simp]
theorem rows_amend (keeps : ∀ row, Keyed.key (change row) = Keyed.key row) :
    (table.amend change keeps).rows = table.rows.map change :=
  rfl

theorem mem_amend_iff {keeps : ∀ row, Keyed.key (change row) = Keyed.key row} {row : ρ} :
    row ∈ table.amend change keeps ↔ ∃ old ∈ table, change old = row := by
  simp only [mem_def, rows_amend, List.mem_map]

/-- A change that leaves every row as it is leaves the table. -/
theorem amend_of_fixed (keeps : ∀ row, Keyed.key (change row) = Keyed.key row)
    (fixed : ∀ row ∈ table, change row = row) : table.amend change keeps = table := by
  apply ext
  rw [rows_amend]
  conv_rhs => rw [← List.map_id table.rows]
  exact List.map_congr_left fixed

/-- Delete the rows that are not kept. -/
def keep (table : Table ρ) (isKept : ρ → Bool) : Table ρ where
  rows := table.rows.filter isKept
  keysNodup := table.keysNodup.sublist (List.filter_sublist.map Keyed.key)

@[simp]
theorem mem_keep_iff {isKept : ρ → Bool} {row : ρ} :
    row ∈ table.keep isKept ↔ row ∈ table ∧ isKept row = true :=
  List.mem_filter

theorem unique_empty (mark : ρ → μ) : Unique mark (empty : Table ρ) :=
  fun row member => absurd member (not_mem_empty row)

/-- A change of other columns keeps the marks apart. -/
theorem Unique.amend {keeps : ∀ row, Keyed.key (change row) = Keyed.key row}
    (unique : table.Unique mark) (keepsMark : ∀ row, mark (change row) = mark row) :
    (table.amend change keeps).Unique mark := by
  intro first firstMem second secondMem sameMark
  rcases mem_amend_iff.mp firstMem with ⟨firstOld, firstOldMem, rfl⟩
  rcases mem_amend_iff.mp secondMem with ⟨secondOld, secondOldMem, rfl⟩
  rw [keepsMark, keepsMark] at sameMark
  rw [unique firstOld firstOldMem secondOld secondOldMem sameMark]

/-- An inserted row carries a mark of its own. -/
theorem Unique.insert? [DecidableEq κ] {result : Table ρ} {row : ρ}
    (unique : table.Unique mark) (inserted : table.insert? row = some result)
    (fresh : ∀ other ∈ table, mark other ≠ mark row) : result.Unique mark := by
  intro first firstMem second secondMem sameMark
  rcases (mem_insert?_iff inserted).mp firstMem with firstOld | rfl <;>
    rcases (mem_insert?_iff inserted).mp secondMem with secondOld | rfl
  · exact unique first firstOld second secondOld sameMark
  · exact absurd sameMark (fresh first firstOld)
  · exact absurd sameMark.symm (fresh second secondOld)
  · rfl

end Table

end AgentRank.Relational
