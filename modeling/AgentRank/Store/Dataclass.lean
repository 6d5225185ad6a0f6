import AgentRank.Constraints.Rules
import AgentRank.Relational.Transaction
import Mathlib.Data.List.Forall2

/-!
# Values that check themselves

A value of some fields is built through a check that may refuse them, as a frozen dataclass
with a `__post_init__` is.  What was built passed the check, and whoever holds it relies on
that without checking again.
-/

namespace AgentRank.Store

open Constraints Relational

universe u

/-- What the first check that fails raises. -/
class Dataclass (ρ : Type u) where
  refusal : ρ → Option ValueError

/-- Fields that passed their check. -/
structure Made (ρ : Type u) [Dataclass ρ] where
  fields : ρ
  sound : Dataclass.refusal fields = none

variable {ρ : Type u} [Dataclass ρ]

@[ext]
theorem Made.ext {first second : Made ρ} (same : first.fields = second.fields) :
    first = second := by
  cases first
  cases second
  cases same
  rfl

instance [DecidableEq ρ] : DecidableEq (Made ρ) := fun first second =>
  decidable_of_iff (first.fields = second.fields) ⟨Made.ext, congrArg Made.fields⟩

/-- Build a value of some fields. -/
def make (fields : ρ) : Except ValueError (Made ρ) :=
  match sound : Dataclass.refusal fields with
  | some error => .error error
  | none => .ok { fields := fields, sound := sound }

theorem make_of_sound {fields : ρ} (sound : Dataclass.refusal fields = none) :
    make fields = .ok { fields := fields, sound := sound } := by
  unfold make
  split
  · next refused => simp [sound] at refused
  · rfl

theorem make_made (made : Made ρ) : make made.fields = .ok made :=
  make_of_sound made.sound

theorem fields_of_make {fields : ρ} {made : Made ρ} (isMade : make fields = .ok made) :
    made.fields = fields := by
  unfold make at isMade
  split at isMade
  · cases isMade
  · cases isMade
    rfl

/-! ## Steps that may raise -/

section Raises

variable {ε α β γ : Type u}

variable {items : List α}

/-- Of two lists that are related item by item, every item is related to one of the other. -/
theorem exists_right_of_forall₂ {relation : α → β → Prop} {others : List β}
    (related : List.Forall₂ relation items others) {item : α} (member : item ∈ items) :
    ∃ other ∈ others, relation item other := by
  induction related with
  | nil => cases member
  | cons isRelated _ ih =>
      rcases List.mem_cons.mp member with rfl | later
      · exact ⟨_, List.mem_cons_self, isRelated⟩
      · obtain ⟨other, otherMem, laterRelated⟩ := ih later
        exact ⟨other, List.mem_cons_of_mem _ otherMem, laterRelated⟩

theorem exists_left_of_forall₂ {relation : α → β → Prop} {others : List β}
    (related : List.Forall₂ relation items others) {other : β} (member : other ∈ others) :
    ∃ item ∈ items, relation item other :=
  exists_right_of_forall₂ related.flip member

variable {step : α → Except ε β}

/-- Every item of a list went through. -/
theorem mapM_eq_ok_iff {results : List β} :
    items.mapM step = .ok results ↔
      List.Forall₂ (fun item result => step item = .ok result) items results := by
  induction items generalizing results with
  | nil =>
      rw [List.mapM_nil]
      constructor
      · intro isOk
        cases isOk
        exact .nil
      · intro related
        cases related
        rfl
  | cons item rest ih =>
      rw [List.mapM_cons, except_bind_eq_ok_iff]
      constructor
      · rintro ⟨result, isOk, later⟩
        obtain ⟨tail, tailOk, same⟩ := except_bind_eq_ok_iff.mp later
        cases same
        exact .cons isOk (ih.mp tailOk)
      · intro related
        cases related with
        | cons isOk later =>
            exact ⟨_, isOk, except_bind_eq_ok_iff.mpr ⟨_, ih.mpr later, rfl⟩⟩

/-- A list does not go through as one of its items does not. -/
theorem exists_of_mapM_eq_error {failure : ε} (failed : items.mapM step = .error failure) :
    ∃ item ∈ items, step item = .error failure := by
  induction items with
  | nil =>
      rw [List.mapM_nil] at failed
      cases failed
  | cons item rest ih =>
      rw [List.mapM_cons] at failed
      rcases except_bind_eq_error_iff.mp failed with here | ⟨_, _, later⟩
      · exact ⟨item, List.mem_cons_self, here⟩
      · rcases except_bind_eq_error_iff.mp later with later | ⟨_, _, ⟨⟩⟩
        obtain ⟨other, member, failed⟩ := ih later
        exact ⟨other, List.mem_cons_of_mem _ member, failed⟩

/-- A list goes through exactly when every item of it does. -/
theorem exists_mapM_eq_ok_iff :
    (∃ results, items.mapM step = .ok results) ↔
      ∀ item ∈ items, ∃ result, step item = .ok result := by
  simp only [mapM_eq_ok_iff]
  constructor
  · rintro ⟨results, related⟩ item member
    obtain ⟨result, _, isOk⟩ := exists_right_of_forall₂ related member
    exact ⟨result, isOk⟩
  · intro everyOk
    induction items with
    | nil => exact ⟨[], .nil⟩
    | cons item rest ih =>
        rw [List.forall_mem_cons] at everyOk
        obtain ⟨result, isOk⟩ := everyOk.1
        obtain ⟨results, related⟩ := ih everyOk.2
        exact ⟨result :: results, .cons isOk related⟩

/-- Every item of a list passed a check. -/
theorem forM_eq_ok_iff {check : α → Except ε PUnit.{u + 1}} :
    List.forM items check = .ok ⟨⟩ ↔ ∀ item ∈ items, check item = .ok ⟨⟩ := by
  induction items with
  | nil => simp [pure, Except.pure]
  | cons item rest ih =>
      change (check item >>= fun _ => rest.forM check) = .ok ⟨⟩ ↔ _
      rw [except_bind_eq_ok_iff, List.forall_mem_cons, ← ih]
      constructor
      · rintro ⟨_, isOk, later⟩
        exact ⟨isOk, later⟩
      · rintro ⟨isOk, later⟩
        exact ⟨_, isOk, later⟩

/-- What came out of a list came from an item of it. -/
theorem exists_of_mem_mapM {results : List β} (isOk : items.mapM step = .ok results) {result : β}
    (member : result ∈ results) :
    ∃ item ∈ items, step item = .ok result :=
  exists_left_of_forall₂ (mapM_eq_ok_iff.mp isOk) member

end Raises

end AgentRank.Store
