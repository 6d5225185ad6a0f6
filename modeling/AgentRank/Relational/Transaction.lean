import Mathlib.Init

/-!
# Transactions

A transaction reads and writes a state and either commits, with a result, or
fails.  A failure carries no state, so everything a failed transaction wrote is
gone: rolling back needs no rule of its own.

The lemmas invert the combinators.  A committed composite transaction is taken
apart into its committed parts, and no definition has to be unfolded past them.
-/

namespace AgentRank.Relational

universe u

/-- A computation over the state `σ` that commits with a result or fails. -/
abbrev Transaction (σ ε : Type u) (α : Type u) :=
  StateT σ (Except ε) α

/-- A sequence of two fallible computations succeeds when both do. -/
theorem except_bind_eq_ok_iff {ε α β : Type u} {first : Except ε α} {rest : α → Except ε β}
    {result : β} :
    (first >>= rest) = .ok result ↔ ∃ value, first = .ok value ∧ rest value = .ok result := by
  cases first with
  | error failure => simp [bind, Except.bind]
  | ok value => simp [bind, Except.bind]

/-- It fails when the first one does, or the second one after it. -/
theorem except_bind_eq_error_iff {ε α β : Type u} {first : Except ε α} {rest : α → Except ε β}
    {failure : ε} :
    (first >>= rest) = .error failure ↔
      first = .error failure ∨ ∃ value, first = .ok value ∧ rest value = .error failure := by
  cases first with
  | error other => simp [bind, Except.bind]
  | ok value => simp [bind, Except.bind]

namespace Transaction

variable {σ ε α β : Type u}

/-- Refuse the transaction when a condition holds. -/
def refuseWhen (condition : Prop) [Decidable condition] (failure : ε) :
    Transaction σ ε PUnit :=
  if condition then throw failure else pure PUnit.unit

/-- The value that was looked up, or a failure. -/
def require (found : Option α) (failure : ε) : Transaction σ ε α :=
  match found with
  | some value => pure value
  | none => throw failure

/-- Refuse the transaction with the failure that a reading of the state names,
when it names one. -/
def checking (refusal : σ → Option ε) : Transaction σ ε PUnit := do
  match refusal (← get) with
  | none => pure PUnit.unit
  | some failure => throw failure

/-- A pure computation that may fail, as a transaction. -/
def lift (result : Except ε α) : Transaction σ ε α :=
  match result with
  | .ok value => pure value
  | .error failure => throw failure

variable {rest : α → Transaction σ ε β} {first : Transaction σ ε α}

/-- A committed sequence is a committed first part followed by a committed
second part. -/
theorem bind_eq_ok_iff {state final : σ} {result : β} :
    (first >>= rest) state = .ok (result, final) ↔
      ∃ value middle, first state = .ok (value, middle) ∧
        rest value middle = .ok (result, final) := by
  change ((first state) >>= fun pair => rest pair.1 pair.2) = _ ↔ _
  cases first state with
  | error failure =>
      constructor
      · intro committed
        cases committed
      · rintro ⟨_, _, committed, _⟩
        cases committed
  | ok pair =>
      constructor
      · intro committed
        exact ⟨pair.1, pair.2, rfl, committed⟩
      · rintro ⟨value, middle, firstEq, committed⟩
        cases firstEq
        exact committed

theorem pure_eq_ok_iff {value result : α} {state final : σ} :
    (pure value : Transaction σ ε α) state = .ok (result, final) ↔
      result = value ∧ final = state := by
  constructor
  · intro committed
    cases committed
    exact ⟨rfl, rfl⟩
  · rintro ⟨rfl, rfl⟩
    rfl

theorem throw_eq_ok_iff {failure : ε} {result : α} {state final : σ} :
    (throw failure : Transaction σ ε α) state = .ok (result, final) ↔ False := by
  constructor
  · intro committed
    cases committed
  · exact False.elim

theorem get_eq_ok_iff {state final result : σ} :
    (get : Transaction σ ε σ) state = .ok (result, final) ↔
      result = state ∧ final = state := by
  constructor
  · intro committed
    cases committed
    exact ⟨rfl, rfl⟩
  · rintro ⟨rfl, rfl⟩
    rfl

variable {result : PUnit}

theorem set_eq_ok_iff {state written final : σ} :
    (set written : Transaction σ ε PUnit) state = .ok (result, final) ↔
      final = written := by
  constructor
  · intro committed
    cases committed
    rfl
  · rintro rfl
    rfl

theorem modify_eq_ok_iff {change : σ → σ} {state final : σ} :
    (modify change : Transaction σ ε PUnit) state = .ok (result, final) ↔
      final = change state := by
  constructor
  · intro committed
    cases committed
    rfl
  · rintro rfl
    rfl

theorem refuseWhen_eq_ok_iff {condition : Prop} [Decidable condition] {failure : ε}
    {state final : σ} :
    (refuseWhen condition failure : Transaction σ ε PUnit) state =
        .ok (result, final) ↔
      ¬condition ∧ final = state := by
  unfold refuseWhen
  split
  · next holds =>
      simp only [throw_eq_ok_iff, holds, not_true_eq_false, false_and]
  · next fails =>
      simp only [pure_eq_ok_iff, fails, not_false_eq_true, true_and]

theorem checking_eq_ok_iff {refusal : σ → Option ε} {state final : σ} :
    (checking refusal : Transaction σ ε PUnit) state = .ok (result, final) ↔
      refusal state = none ∧ final = state := by
  unfold checking
  rw [bind_eq_ok_iff]
  constructor
  · rintro ⟨current, middle, readEq, committed⟩
    rw [get_eq_ok_iff] at readEq
    rcases readEq with ⟨rfl, rfl⟩
    cases named : refusal middle with
    | none =>
        rw [named] at committed
        exact ⟨rfl, (pure_eq_ok_iff.mp committed).2⟩
    | some failure =>
        rw [named] at committed
        exact (throw_eq_ok_iff.mp committed).elim
  · rintro ⟨allowed, rfl⟩
    refine ⟨final, final, get_eq_ok_iff.mpr ⟨rfl, rfl⟩, ?_⟩
    rw [allowed]
    exact pure_eq_ok_iff.mpr ⟨rfl, rfl⟩

theorem require_eq_ok_iff {found : Option α} {failure : ε} {state final : σ}
    {result : α} :
    (require found failure : Transaction σ ε α) state = .ok (result, final) ↔
      found = some result ∧ final = state := by
  cases found with
  | none => simp only [require, throw_eq_ok_iff, reduceCtorEq, false_and]
  | some value =>
      simp only [require, pure_eq_ok_iff, Option.some.injEq]
      constructor
      · rintro ⟨rfl, sameState⟩
        exact ⟨rfl, sameState⟩
      · rintro ⟨rfl, sameState⟩
        exact ⟨rfl, sameState⟩

theorem lift_eq_ok_iff {outcome : Except ε α} {state final : σ} {result : α} :
    (lift outcome : Transaction σ ε α) state = .ok (result, final) ↔
      outcome = .ok result ∧ final = state := by
  cases outcome with
  | error failure => simp only [lift, throw_eq_ok_iff, reduceCtorEq, false_and]
  | ok value =>
      simp only [lift, pure_eq_ok_iff, Except.ok.injEq]
      constructor
      · rintro ⟨rfl, sameState⟩
        exact ⟨rfl, sameState⟩
      · rintro ⟨rfl, sameState⟩
        exact ⟨rfl, sameState⟩

/-- A loop of checks passes exactly when every check passes. -/
theorem forM_eq_ok_iff {checks : α → Except ε PUnit} {values : List α} :
    forM values checks = .ok PUnit.unit ↔ ∀ value ∈ values, checks value = .ok PUnit.unit := by
  induction values with
  | nil => simp [pure, Except.pure]
  | cons first rest ih =>
      rw [List.forall_mem_cons, ← ih, List.forM_cons]
      cases checks first with
      | error failure => simp [bind, Except.bind]
      | ok _ => simp [bind, Except.bind]

/-- A loop of checks fails as one of them does. -/
theorem exists_of_forM_eq_error {checks : α → Except ε PUnit} {values : List α} {failure : ε}
    (failed : forM values checks = .error failure) :
    ∃ value ∈ values, checks value = .error failure := by
  induction values with
  | nil => cases failed
  | cons first rest ih =>
      rw [List.forM_cons] at failed
      cases outcome : checks first with
      | error raised =>
          rw [outcome] at failed
          cases failed
          exact ⟨first, List.mem_cons_self, outcome⟩
      | ok _ =>
          rw [outcome] at failed
          obtain ⟨value, member, failed⟩ := ih failed
          exact ⟨value, List.mem_cons_of_mem _ member, failed⟩

theorem pure_eq_error_iff {value : α} {state : σ} {failure : ε} :
    (pure value : Transaction σ ε α) state = .error failure ↔ False := by
  constructor
  · intro failed
    cases failed
  · exact False.elim

/-! ## A step and what comes after it -/

section Step

variable {state final : σ} {result : β} {raised failure : ε}

theorem get_bind {rest : σ → Transaction σ ε β} : (get >>= rest) state = rest state state :=
  rfl

theorem require_bind {found : Option α} :
    (require found raised >>= rest) state =
      match found with
      | none => .error raised
      | some value => rest value state := by
  cases found <;> rfl

theorem require_bind_eq_ok_iff {found : Option α} :
    (require found raised >>= rest) state = .ok (result, final) ↔
      ∃ value, found = some value ∧ rest value state = .ok (result, final) := by
  rw [require_bind]
  cases found <;> simp

theorem require_bind_eq_error_iff {found : Option α} :
    (require found raised >>= rest) state = .error failure ↔
      found = none ∧ raised = failure ∨
        ∃ value, found = some value ∧ rest value state = .error failure := by
  rw [require_bind]
  cases found <;> simp

theorem lift_bind {outcome : Except ε α} :
    (lift outcome >>= rest) state = outcome >>= fun value => rest value state := by
  cases outcome <;> rfl

variable {rest : PUnit → Transaction σ ε β}

theorem set_bind {written : σ} : (set written >>= rest) state = rest ⟨⟩ written :=
  rfl

theorem modify_bind {change : σ → σ} : (modify change >>= rest) state = rest ⟨⟩ (change state) :=
  rfl

theorem refuseWhen_bind {condition : Prop} [Decidable condition] :
    (refuseWhen condition raised >>= rest) state =
      if condition then .error raised else rest ⟨⟩ state := by
  unfold refuseWhen
  split <;> rfl

theorem refuseWhen_bind_eq_ok_iff {condition : Prop} [Decidable condition] :
    (refuseWhen condition raised >>= rest) state = .ok (result, final) ↔
      ¬condition ∧ rest ⟨⟩ state = .ok (result, final) := by
  rw [refuseWhen_bind]
  split
  · next holds => simp [holds]
  · next fails => simp [fails]

theorem refuseWhen_bind_eq_error_iff {condition : Prop} [Decidable condition] :
    (refuseWhen condition raised >>= rest) state = .error failure ↔
      condition ∧ raised = failure ∨ ¬condition ∧ rest ⟨⟩ state = .error failure := by
  rw [refuseWhen_bind]
  split
  · next holds => simp [holds]
  · next fails => simp [fails]

theorem checking_bind {refusal : σ → Option ε} :
    (checking refusal >>= rest) state =
      match refusal state with
      | none => rest ⟨⟩ state
      | some raised => .error raised := by
  change ((match refusal state with | none => pure _ | some raised => throw raised :
    Transaction σ ε PUnit) >>= rest) state = _
  cases refusal state <;> rfl

theorem checking_bind_eq_ok_iff {refusal : σ → Option ε} :
    (checking refusal >>= rest) state = .ok (result, final) ↔
      refusal state = none ∧ rest ⟨⟩ state = .ok (result, final) := by
  rw [checking_bind]
  cases refusal state <;> simp

theorem checking_bind_eq_error_iff {refusal : σ → Option ε} :
    (checking refusal >>= rest) state = .error failure ↔
      refusal state = some failure ∨ refusal state = none ∧ rest ⟨⟩ state = .error failure := by
  rw [checking_bind]
  cases refusal state <;> simp

end Step

/-- The state that stands after a transaction: the written one when it
committed, the original one when it failed. -/
def settle (transaction : Transaction σ ε α) (state : σ) : σ :=
  match transaction state with
  | .ok (_, final) => final
  | .error _ => state

theorem settle_of_ok {transaction : Transaction σ ε α} {state final : σ} {result : α}
    (committed : transaction state = .ok (result, final)) :
    transaction.settle state = final := by
  simp [settle, committed]

theorem settle_of_error {transaction : Transaction σ ε α} {state : σ} {failure : ε}
    (failed : transaction state = .error failure) :
    transaction.settle state = state := by
  simp [settle, failed]

/-- A transaction that commits from every state. -/
def Total (transaction : Transaction σ ε α) : Prop :=
  ∀ state, ∃ result final, transaction state = .ok (result, final)

namespace Total

theorem pure (value : α) : Total (pure value : Transaction σ ε α) :=
  fun state => ⟨value, state, rfl⟩

theorem get : Total (get : Transaction σ ε σ) :=
  fun state => ⟨state, state, rfl⟩

theorem set (written : σ) : Total (set written : Transaction σ ε PUnit) :=
  fun _ => ⟨PUnit.unit, written, rfl⟩

theorem modify (change : σ → σ) : Total (modify change : Transaction σ ε PUnit) :=
  fun state => ⟨PUnit.unit, change state, rfl⟩

/-- After a first part that commits, a total rest commits. -/
theorem after {state middle : σ} {value : α} (total : Total (rest value))
    (firstEq : first state = .ok (value, middle)) :
    ∃ result final, (first >>= rest) state = .ok (result, final) := by
  obtain ⟨result, final, restEq⟩ := total middle
  exact ⟨result, final, bind_eq_ok_iff.mpr ⟨value, middle, firstEq, restEq⟩⟩

theorem bind (firstTotal : Total first) (restTotal : ∀ value, Total (rest value)) :
    Total (first >>= rest) := by
  intro state
  obtain ⟨value, _, firstEq⟩ := firstTotal state
  exact (restTotal value).after firstEq

end Total

end Transaction

end AgentRank.Relational
