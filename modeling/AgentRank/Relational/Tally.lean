import Mathlib.Algebra.BigOperators.Group.List.Basic
import Mathlib.Algebra.GroupWithZero.Nat
import Mathlib.Data.List.Nodup

/-!
# Tallies

A tally is a dictionary of amounts, in the order its keys were first met.  What a key ends
with is the sum of all that was added under it, so the order of the additions matters only
for the order of the keys.
-/

namespace AgentRank.Relational

universe u v

/-- Amounts under pairwise distinct keys, and nothing elsewhere. -/
structure Tally (κ : Type u) where
  keys : List κ
  amount : κ → Nat
  keysNodup : keys.Nodup
  nothingElsewhere : ∀ key, key ∉ keys → amount key = 0

namespace Tally

variable {κ : Type u} {α : Type v}

def empty : Tally κ where
  keys := []
  amount _ := 0
  keysNodup := List.nodup_nil
  nothingElsewhere _ _ := rfl

variable [DecidableEq κ]

/-- Add an amount under a key, which is new or not. -/
def add (tally : Tally κ) (key : κ) (added : Nat) : Tally κ where
  keys := if key ∈ tally.keys then tally.keys else tally.keys ++ [key]
  amount other := tally.amount other + if other = key then added else 0
  keysNodup := by
    split
    · exact tally.keysNodup
    · next unknown =>
        rw [List.nodup_append_comm]
        exact List.nodup_cons.mpr ⟨unknown, tally.keysNodup⟩
  nothingElsewhere other outside := by
    have unknown : other ∉ tally.keys ∧ other ≠ key := by
      by_cases known : key ∈ tally.keys
      · rw [if_pos known] at outside
        exact ⟨outside, fun same => outside (same ▸ known)⟩
      · simpa [known] using outside
    rw [tally.nothingElsewhere other unknown.1, if_neg unknown.2]

theorem mem_keys_add {tally : Tally κ} {key other : κ} {added : Nat} :
    other ∈ (tally.add key added).keys ↔ other = key ∨ other ∈ tally.keys := by
  by_cases known : key ∈ tally.keys
  · simp only [add, known, if_true]
    constructor
    · exact Or.inr
    · rintro (rfl | member)
      · exact known
      · exact member
  · simp [add, known, or_comm]

/-- Add what each item of a list stands for. -/
def of (items : List α) (key : α → κ) (added : α → Nat) : Tally κ :=
  items.foldl (fun tally item => tally.add (key item) (added item)) empty

section Of

variable {items others : List α} {key : α → κ} {added : α → Nat}

theorem mem_keys_of {wanted : κ} :
    wanted ∈ (of items key added).keys ↔ ∃ item ∈ items, key item = wanted := by
  have folded : ∀ (items : List α) (tally : Tally κ),
      wanted ∈ (items.foldl (fun tally item => tally.add (key item) (added item)) tally).keys ↔
        wanted ∈ tally.keys ∨ ∃ item ∈ items, key item = wanted := by
    intro items
    induction items with
    | nil => simp
    | cons first rest inductionHypothesis =>
        intro tally
        rw [List.foldl_cons, inductionHypothesis, mem_keys_add]
        simp [eq_comm, or_assoc, or_left_comm]
  rw [of, folded]
  simp [empty]

/-- A key ends with the sum of what was added under it. -/
theorem amount_of (wanted : κ) :
    (of items key added).amount wanted =
      (items.map fun item => if key item = wanted then added item else 0).sum := by
  have folded : ∀ (items : List α) (tally : Tally κ),
      (items.foldl (fun tally item => tally.add (key item) (added item)) tally).amount wanted =
        tally.amount wanted +
          (items.map fun item => if key item = wanted then added item else 0).sum := by
    intro items
    induction items with
    | nil => simp
    | cons first rest inductionHypothesis =>
        intro tally
        rw [List.foldl_cons, inductionHypothesis]
        simp [add, eq_comm, Nat.add_assoc]
  rw [of, folded]
  simp [empty]

/-- A tally depends on the order of its items only in the order of its keys. -/
theorem of_perm (same : items.Perm others) :
    (of items key added).keys.Perm (of others key added).keys ∧
      (of items key added).amount = (of others key added).amount := by
  constructor
  · rw [List.perm_ext_iff_of_nodup (of items key added).keysNodup
      (of others key added).keysNodup]
    intro wanted
    simp [mem_keys_of, same.mem_iff]
  · funext wanted
    rw [amount_of, amount_of]
    exact (same.map _).sum_eq

end Of

end Tally

end AgentRank.Relational
