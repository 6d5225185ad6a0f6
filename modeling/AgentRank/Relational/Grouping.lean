import Mathlib.Data.List.Nodup
import Mathlib.Data.List.Perm.Basic

/-!
# Groupings

A grouping is a dictionary of lists, in the order its keys were first met.  Under a key stands
every item that was added under it, in the order of the additions.

Items that each belong to at most one of some keys are spread over them without a loss or a
repetition.
-/

namespace AgentRank.Relational

universe u v

/-- Items under pairwise distinct keys, and nothing elsewhere. -/
structure Grouping (κ : Type u) (α : Type v) where
  keys : List κ
  members : κ → List α
  keysNodup : keys.Nodup
  nothingElsewhere : ∀ key, key ∉ keys → members key = []

namespace Grouping

variable {κ : Type u} {α : Type v}

def empty : Grouping κ α where
  keys := []
  members _ := []
  keysNodup := List.nodup_nil
  nothingElsewhere _ _ := rfl

variable [DecidableEq κ]

/-- Add an item under a key, which is new or not. -/
def add (grouping : Grouping κ α) (key : κ) (item : α) : Grouping κ α where
  keys := if key ∈ grouping.keys then grouping.keys else grouping.keys ++ [key]
  members other :=
    if other = key then grouping.members other ++ [item] else grouping.members other
  keysNodup := by
    split
    · exact grouping.keysNodup
    · next unknown =>
        rw [List.nodup_append_comm]
        exact List.nodup_cons.mpr ⟨unknown, grouping.keysNodup⟩
  nothingElsewhere other outside := by
    have unknown : other ∉ grouping.keys ∧ other ≠ key := by
      by_cases known : key ∈ grouping.keys
      · rw [if_pos known] at outside
        exact ⟨outside, fun same => outside (same ▸ known)⟩
      · simpa [known] using outside
    rw [if_neg unknown.2, grouping.nothingElsewhere other unknown.1]

theorem mem_keys_add {grouping : Grouping κ α} {key other : κ} {item : α} :
    other ∈ (grouping.add key item).keys ↔ other = key ∨ other ∈ grouping.keys := by
  by_cases known : key ∈ grouping.keys
  · simp only [add, known, if_true]
    constructor
    · exact Or.inr
    · rintro (rfl | member)
      · exact known
      · exact member
  · simp [add, known, or_comm]

/-- Add items one by one, each under its key. -/
def of (entries : List (κ × α)) : Grouping κ α :=
  entries.foldl (fun grouping entry => grouping.add entry.1 entry.2) empty

section Of

variable {entries : List (κ × α)}

theorem mem_keys_of {wanted : κ} :
    wanted ∈ (of entries).keys ↔ ∃ item, (wanted, item) ∈ entries := by
  have folded : ∀ (entries : List (κ × α)) (grouping : Grouping κ α),
      wanted ∈ (entries.foldl (fun grouping entry => grouping.add entry.1 entry.2) grouping).keys ↔
        wanted ∈ grouping.keys ∨ ∃ item, (wanted, item) ∈ entries := by
    intro entries
    induction entries with
    | nil => simp
    | cons first rest inductionHypothesis =>
        intro grouping
        rw [List.foldl_cons, inductionHypothesis, mem_keys_add]
        simp only [List.mem_cons, exists_or, Prod.ext_iff, exists_and_left, exists_eq, and_true]
        rw [← or_assoc, @or_comm (wanted = first.1)]
  rw [of, folded]
  simp [empty]

/-- Under a key stands what was added under it. -/
theorem members_of (wanted : κ) :
    (of entries).members wanted =
      (entries.filter fun entry => decide (entry.1 = wanted)).map Prod.snd := by
  have folded : ∀ (entries : List (κ × α)) (grouping : Grouping κ α),
      (entries.foldl (fun grouping entry => grouping.add entry.1 entry.2) grouping).members wanted =
        grouping.members wanted ++
          (entries.filter fun entry => decide (entry.1 = wanted)).map Prod.snd := by
    intro entries
    induction entries with
    | nil => simp
    | cons first rest inductionHypothesis =>
        intro grouping
        rw [List.foldl_cons, inductionHypothesis]
        by_cases same : first.1 = wanted
        · simp [add, same]
        · simp [add, same, Ne.symm same]
  rw [of, folded]
  simp [empty]

end Of

end Grouping

section Spread

variable {κ : Type u} {α : Type v} [DecidableEq κ]

/-- Under distinct keys a filter by a key finds what there is to find. -/
theorem filter_eq_find?_toList {items : List α} {keyOf : α → κ}
    (distinct : (items.map keyOf).Nodup) (key : κ) :
    (items.filter fun item => decide (keyOf item = key)) =
      (items.find? fun item => decide (keyOf item = key)).toList := by
  induction items with
  | nil => rfl
  | cons first rest inductionHypothesis =>
      rcases List.nodup_cons.mp distinct with ⟨isNew, restDistinct⟩
      by_cases isFirst : keyOf first = key
      · have noOther : ∀ item ∈ rest, ¬ decide (keyOf item = key) = true := by
          intro item member same
          exact isNew (isFirst.trans (of_decide_eq_true same).symm ▸ List.mem_map_of_mem member)
        rw [List.filter_cons, List.find?_cons, decide_eq_true isFirst,
          List.filter_eq_nil_iff.mpr noOther]
        rfl
      · rw [List.filter_cons, List.find?_cons, decide_eq_false isFirst]
        exact inductionHypothesis restDistinct

/-- Items that each belong to at most one key are spread over distinct keys as they are. -/
theorem flatMap_filter_perm {keys : List κ} (distinct : keys.Nodup) (items : List α)
    (keyOf : α → Option κ) :
    (keys.flatMap fun key => items.filter fun item => decide (keyOf item = some key)).Perm
      (items.filter fun item => decide (∃ key ∈ keys, keyOf item = some key)) := by
  induction keys with
  | nil => simp
  | cons first rest inductionHypothesis =>
      rcases List.nodup_cons.mp distinct with ⟨isNew, restDistinct⟩
      rw [List.flatMap_cons]
      have split := List.filter_append_perm (fun item => decide (keyOf item = some first))
        (items.filter fun item => decide (∃ key ∈ first :: rest, keyOf item = some key))
      refine List.Perm.trans ?_ split
      refine List.Perm.append (List.Perm.of_eq ?_) ?_
      · rw [List.filter_filter]
        refine List.filter_congr fun item _ => ?_
        by_cases isFirst : keyOf item = some first <;> simp [isFirst]
      · refine (inductionHypothesis restDistinct).trans (List.Perm.of_eq ?_)
        rw [List.filter_filter]
        refine List.filter_congr fun item _ => ?_
        by_cases isFirst : keyOf item = some first
        · simp [isFirst, isNew]
        · simp [isFirst]

end Spread

end AgentRank.Relational
