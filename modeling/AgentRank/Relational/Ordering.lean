import Mathlib.Data.List.Sort
import Mathlib.Order.Basic

/-!
# Rows in a named order

A query that names the order of its rows sorts them by a key.  Where no two of the rows share
that key, the result does not depend on the order in which the rows were found.
-/

namespace AgentRank.Relational

universe u v w

/-- A linear order on the keys that rows are sorted by. -/
structure KeyOrder (κ : Type u) where
  le : κ → κ → Bool
  total : ∀ first second, (le first second || le second first) = true
  trans : ∀ first second third, le first second = true → le second third = true →
    le first third = true
  antisymm : ∀ first second, le first second = true → le second first = true → first = second

namespace KeyOrder

variable {κ : Type u} {μ : Type v} {ρ : Type w}

/-- The order of a linearly ordered type. -/
def natural (κ : Type u) [LinearOrder κ] : KeyOrder κ where
  le first second := decide (first ≤ second)
  total first second := by
    rw [Bool.or_eq_true, decide_eq_true_eq, decide_eq_true_eq]
    exact le_total first second
  trans first second third less more := by
    rw [decide_eq_true_eq] at *
    exact less.trans more
  antisymm first second less more := by
    rw [decide_eq_true_eq] at *
    exact le_antisymm less more

/-- Order by one key, and by a second key where the first is the same. -/
def andThen [DecidableEq κ] (order : KeyOrder κ) (next : KeyOrder μ) : KeyOrder (κ × μ) where
  le first second :=
    if first.1 = second.1 then next.le first.2 second.2 else order.le first.1 second.1
  total first second := by
    by_cases same : first.1 = second.1
    · rw [if_pos same, if_pos same.symm]
      exact next.total _ _
    · rw [if_neg same, if_neg (Ne.symm same)]
      exact order.total _ _
  trans first second third less more := by
    by_cases firstSame : first.1 = second.1
    · rw [if_pos firstSame] at less
      by_cases secondSame : second.1 = third.1
      · rw [if_pos secondSame] at more
        rw [if_pos (firstSame.trans secondSame)]
        exact next.trans _ _ _ less more
      · rw [if_neg secondSame] at more
        rw [firstSame, if_neg secondSame]
        exact more
    · rw [if_neg firstSame] at less
      by_cases secondSame : second.1 = third.1
      · rw [← secondSame, if_neg firstSame]
        exact less
      · rw [if_neg secondSame] at more
        by_cases same : first.1 = third.1
        · rw [← same] at more
          exact absurd (order.antisymm _ _ less more) firstSame
        · rw [if_neg same]
          exact order.trans _ _ _ less more
  antisymm first second less more := by
    by_cases same : first.1 = second.1
    · rw [if_pos same] at less
      rw [if_pos same.symm] at more
      exact Prod.ext same (next.antisymm _ _ less more)
    · rw [if_neg same] at less
      rw [if_neg (Ne.symm same)] at more
      exact absurd (order.antisymm _ _ less more) same

variable (order : KeyOrder κ) (key : ρ → κ)

/-- `ORDER BY`. -/
def sortBy (rows : List ρ) : List ρ :=
  rows.mergeSort fun first second => order.le (key first) (key second)

theorem sortBy_perm (rows : List ρ) : (order.sortBy key rows).Perm rows :=
  List.mergeSort_perm _ _

@[simp]
theorem mem_sortBy {rows : List ρ} {row : ρ} : row ∈ order.sortBy key rows ↔ row ∈ rows :=
  (order.sortBy_perm key rows).mem_iff

theorem pairwise_sortBy (rows : List ρ) :
    (order.sortBy key rows).Pairwise fun first second =>
      order.le (key first) (key second) = true := by
  apply List.pairwise_mergeSort
  · exact fun first second third => order.trans _ _ _
  · exact fun first second => order.total _ _

/-- Rows in order are sorted, whatever order they were found in. -/
theorem sortBy_eq_of_pairwise {rows sorted : List ρ}
    (keys : ∀ first ∈ rows, ∀ second ∈ rows, key first = key second → first = second)
    (same : sorted.Perm rows)
    (inOrder : sorted.Pairwise fun first second => order.le (key first) (key second) = true) :
    order.sortBy key rows = sorted := by
  apply List.Perm.eq_of_pairwise _ (order.pairwise_sortBy key rows) inOrder
    ((order.sortBy_perm key rows).trans same.symm)
  intro first second firstMem secondMem less more
  have sameKey := order.antisymm _ _ less more
  exact keys first ((order.mem_sortBy key).mp firstMem) second (same.mem_iff.mp secondMem) sameKey

/-- The order in which the rows are found is no part of the result. -/
theorem sortBy_eq_of_perm {rows others : List ρ}
    (keys : ∀ first ∈ rows, ∀ second ∈ rows, key first = key second → first = second)
    (same : rows.Perm others) : order.sortBy key rows = order.sortBy key others :=
  order.sortBy_eq_of_pairwise key keys ((order.sortBy_perm key others).trans same.symm)
    (order.pairwise_sortBy key others)

/-- Keys in order do not depend on the order in which they were found. -/
theorem sortBy_id_eq_of_perm {keys others : List κ} (same : keys.Perm others) :
    order.sortBy id keys = order.sortBy id others :=
  order.sortBy_eq_of_perm id (fun _ _ _ _ equal => equal) same

/-- Some of the rows in order are the order of these rows. -/
theorem filter_sortBy {rows : List ρ} (keep : ρ → Bool)
    (keys : ∀ first ∈ rows.filter keep, ∀ second ∈ rows.filter keep,
      key first = key second → first = second) :
    (order.sortBy key rows).filter keep = order.sortBy key (rows.filter keep) :=
  (order.sortBy_eq_of_pairwise key keys ((order.sortBy_perm key rows).filter keep)
    ((order.pairwise_sortBy key rows).filter keep)).symm

/-- What is read off sorted rows is sorted, by a key that is read off too. -/
theorem map_sortBy {σ : Type w} {read : ρ → σ} {other : σ → κ}
    (sameKey : ∀ row, other (read row) = key row) (rows : List ρ) :
    (order.sortBy key rows).map read = order.sortBy other (rows.map read) := by
  refine List.map_mergeSort fun first _ second _ => ?_
  rw [sameKey, sameKey]

end KeyOrder

end AgentRank.Relational
