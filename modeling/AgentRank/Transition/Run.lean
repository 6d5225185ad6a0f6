import Mathlib.Init

/-!
# Labelled runs

A deterministic system takes one step for every label.  A run follows a list of
labels from a start state.  A guard says which labels a state allows, and a run is
guarded when every label of it is allowed where it is taken.

Every property of a run is derived from a property of one step: what a guarded step
keeps, a guarded run keeps.
-/

namespace AgentRank.Transition

universe u v

variable {σ : Type u} {α : Type v}

/-- The state after a list of labels. -/
def run (step : α → σ → σ) (state : σ) : List α → σ
  | [] => state
  | label :: rest => run step (step label state) rest

/-- Every label of the run is allowed in the state it is taken in. -/
def Guarded (step : α → σ → σ) (guard : σ → α → Prop) (state : σ) : List α → Prop
  | [] => True
  | label :: rest => guard state label ∧ Guarded step guard (step label state) rest

instance decidableGuarded (step : α → σ → σ) (guard : σ → α → Prop)
    [∀ state label, Decidable (guard state label)] (state : σ) (labels : List α) :
    Decidable (Guarded step guard state labels) :=
  match labels with
  | [] => inferInstanceAs (Decidable True)
  | label :: rest =>
      let _ := decidableGuarded step guard (step label state) rest
      inferInstanceAs (Decidable (_ ∧ _))

variable {step : α → σ → σ} {guard : σ → α → Prop} {state : σ}

@[simp]
theorem run_nil : run step state [] = state :=
  rfl

@[simp]
theorem run_cons (label : α) (rest : List α) :
    run step state (label :: rest) = run step (step label state) rest :=
  rfl

/-- A run of two parts is the second part, run from the end of the first. -/
theorem run_append (first second : List α) :
    run step state (first ++ second) = run step (run step state first) second := by
  induction first generalizing state with
  | nil => rfl
  | cons label rest ih => exact ih

/-- A guarded run of two parts is guarded in both. -/
theorem guarded_append_iff (first second : List α) :
    Guarded step guard state (first ++ second) ↔
      Guarded step guard state first ∧ Guarded step guard (run step state first) second := by
  induction first generalizing state with
  | nil => exact ⟨fun later => ⟨trivial, later⟩, fun both => both.2⟩
  | cons label rest ih =>
      change guard state label ∧ Guarded step guard (step label state) (rest ++ second) ↔
        (guard state label ∧ Guarded step guard (step label state) rest) ∧ _
      rw [ih, and_assoc]
      rfl

variable {labels : List α}

/-- A guard that asks less is kept by every run that keeps the stronger one. -/
theorem Guarded.mono {weaker : σ → α → Prop}
    (weaken : ∀ state label, guard state label → weaker state label)
    (guarded : Guarded step guard state labels) : Guarded step weaker state labels := by
  induction labels generalizing state with
  | nil => trivial
  | cons label rest ih => exact ⟨weaken _ _ guarded.1, ih guarded.2⟩

/-- A run that keeps two guards keeps both at every label. -/
theorem Guarded.and {second : σ → α → Prop} (guarded : Guarded step guard state labels)
    (other : Guarded step second state labels) :
    Guarded step (fun state label => guard state label ∧ second state label) state labels := by
  induction labels generalizing state with
  | nil => trivial
  | cons label rest ih => exact ⟨⟨guarded.1, other.1⟩, ih guarded.2 other.2⟩

/-- A guard on labels alone is kept when every label of the run passes it. -/
theorem guarded_of_forall {allowed : α → Prop} (allAllowed : ∀ label ∈ labels, allowed label) :
    Guarded step (fun _ label => allowed label) state labels := by
  induction labels generalizing state with
  | nil => trivial
  | cons label rest ih =>
      rw [List.forall_mem_cons] at allAllowed
      exact ⟨allAllowed.1, ih allAllowed.2⟩

/-- A run is guarded exactly when every label is allowed in the state that the labels
before it lead to. -/
theorem guarded_iff_forall :
    Guarded step guard state labels ↔
      ∀ before label after, labels = before ++ label :: after →
        guard (run step state before) label := by
  induction labels generalizing state with
  | nil => simp [Guarded]
  | cons first rest ih =>
      constructor
      · rintro ⟨allowed, later⟩ before label after split
        cases before with
        | nil =>
            rw [List.nil_append, List.cons.injEq] at split
            rcases split with ⟨rfl, _⟩
            exact allowed
        | cons head before =>
            rw [List.cons_append, List.cons.injEq] at split
            rcases split with ⟨rfl, restEq⟩
            exact ih.mp later before label after restEq
      · intro everywhere
        refine ⟨everywhere [] first rest rfl, ih.mpr ?_⟩
        intro before label after split
        exact everywhere (first :: before) label after (by rw [split, List.cons_append])

/-- Guards that allow the same labels guard the same runs. -/
theorem guarded_congr {other : σ → α → Prop}
    (same : ∀ state label, guard state label ↔ other state label) :
    Guarded step guard state labels ↔ Guarded step other state labels :=
  ⟨Guarded.mono fun state label => (same state label).mp,
    Guarded.mono fun state label => (same state label).mpr⟩

/-- What every allowed step keeps, every guarded run keeps. -/
theorem run_invariant {invariant : σ → Prop} {labels : List α}
    (preserved : ∀ state label, invariant state → guard state label →
      invariant (step label state))
    (start : invariant state) (guarded : Guarded step guard state labels) :
    invariant (run step state labels) := by
  induction labels generalizing state with
  | nil => exact start
  | cons label rest ih => exact ih (preserved _ _ start guarded.1) guarded.2

/-- What every step keeps, every run keeps. -/
theorem run_invariant_of_step {invariant : σ → Prop} (labels : List α)
    (preserved : ∀ state label, invariant state → invariant (step label state))
    (start : invariant state) : invariant (run step state labels) := by
  induction labels generalizing state with
  | nil => exact start
  | cons label rest ih => exact ih (preserved state label start)

/-- A reflexive and transitive relation that holds across every allowed step from an
invariant state holds across every guarded run. -/
theorem run_relation {invariant : σ → Prop} {relation : σ → σ → Prop} {labels : List α}
    (reflexive : ∀ state, relation state state)
    (transitive : ∀ {first middle last}, relation first middle → relation middle last →
      relation first last)
    (preserved : ∀ state label, invariant state → guard state label →
      invariant (step label state))
    (related : ∀ state label, invariant state → guard state label →
      relation state (step label state))
    (start : invariant state) (guarded : Guarded step guard state labels) :
    relation state (run step state labels) := by
  induction labels generalizing state with
  | nil => exact reflexive state
  | cons label rest ih =>
      exact transitive (related _ _ start guarded.1)
        (ih (preserved _ _ start guarded.1) guarded.2)

/-- A reflexive and transitive relation that holds across every step holds across every
run. -/
theorem run_relation_of_step {relation : σ → σ → Prop} (labels : List α)
    (reflexive : ∀ state, relation state state)
    (transitive : ∀ {first middle last}, relation first middle → relation middle last →
      relation first last)
    (related : ∀ state label, relation state (step label state)) :
    relation state (run step state labels) := by
  induction labels generalizing state with
  | nil => exact reflexive state
  | cons label rest ih => exact transitive (related state label) ih

/-- What holds across every allowed step from an invariant state holds wherever a
guarded run takes a step. -/
theorem step_of_run {invariant : σ → Prop} {property : σ → α → Prop}
    {before after : List α} {label : α}
    (preserved : ∀ state label, invariant state → guard state label →
      invariant (step label state))
    (related : ∀ state label, invariant state → guard state label → property state label)
    (start : invariant state)
    (guarded : Guarded step guard state (before ++ label :: after)) :
    property (run step state before) label := by
  obtain ⟨earlier, later⟩ := (guarded_append_iff before (label :: after)).mp guarded
  exact related _ _ (run_invariant preserved start earlier) later.1

end AgentRank.Transition
