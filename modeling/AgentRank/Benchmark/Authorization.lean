import AgentRank.Benchmark.Definitions

/-!
# Provisioning the authorization that a brief states

This module models `benchmark/authorization.py` and the same method of
`benchmark/reference_executor.py`.  The budget and the quantity ceiling become a mandate,
and the categories and attributes become its constraint set.  A brief that states neither
gets no constraint set.
-/

namespace AgentRank.Benchmark

open Constraints Store Text

/-- How long a provisioned mandate is valid: an hour, in microseconds. -/
def mandateWindow : Instant := 60 * 60 * 1000000

/-- The categories and attributes that a brief states, in the order stated. -/
def AgentMissionBrief.semanticConstraints (brief : AgentMissionBrief) : List HardConstraint :=
  brief.hardConstraints.filter fun constraint => !constraint.isFinancial

/-- The limit on the length of a category that is sent. -/
def withinInputLimits : HardConstraint → Bool
  | .allowedCategory category => decide (category.length ≤ maxStatementLength)
  | .maxTotalAmount _ _ | .maxQuantity _ | .requiredAttribute _ _ _ => true

/-- What the request for a mandate refuses of a valid brief: a long category, and more
constraints than an intent holds once the budget is one of them. -/
def stateIntent (brief : AgentMissionBrief) : Except ValueError Unit :=
  if !brief.hardConstraints.all withinInputLimits then
    .error { message := s!"String should have at most {maxStatementLength} characters" }
  else if maxHardConstraints < brief.hardConstraints.length + 1 then
    .error
      { message :=
          s!"List should have at most {maxHardConstraints} items after validation, not {brief.hardConstraints.length + 1}" }
  else .ok ()

/-- The mandate that a brief authorizes. -/
def mandateFor (brief : AgentMissionBrief) (merchantId mandateId : Uuid) (now : Instant) :
    SpendingMandate where
  id := mandateId
  merchantId := merchantId
  maxTotalAmountMinor := brief.budget.amountMinor
  currency := brief.currency
  maxQuantity := brief.maxQuantity.map Int.toNat
  validFrom := now
  validUntil := now + mandateWindow
  status := .active
  revokedAt := none

variable [CaseFolding]

/-- What was provisioned for one brief. -/
structure Provisioned where
  mandate : SpendingMandate
  requirements : Option NewIntentConstraints

/-- `provision`. -/
def provision (brief : AgentMissionBrief) (merchantId mandateId : Uuid) (now : Instant) :
    Except ValueError Provisioned := do
  stateIntent brief
  let mandate := mandateFor brief merchantId mandateId now
  let semantic := brief.semanticConstraints
  if semantic.isEmpty then .ok { mandate := mandate, requirements := none }
  else
    let request ← NewIntentConstraints.make merchantId mandateId semantic
    .ok { mandate := mandate, requirements := some request }

/-- The constraint set that is stored for what was provisioned. -/
def Provisioned.constraintSet (provisioned : Provisioned) (setId : Uuid)
    (constraintId : Nat → Uuid) : Option IntentConstraintSet :=
  provisioned.requirements.map fun request => constraintSetRow request setId constraintId

/-- A request that was made carries what it was asked for. -/
theorem newIntentConstraints_make_eq_ok {merchantId mandateId : Uuid}
    {hardConstraints : List HardConstraint} {request : NewIntentConstraints}
    (made : NewIntentConstraints.make merchantId mandateId hardConstraints = .ok request) :
    request.merchantId = merchantId ∧ request.mandateId = mandateId ∧
      request.hardConstraints = hardConstraints := by
  unfold NewIntentConstraints.make at made
  split at made
  · cases made
    exact ⟨rfl, rfl, rfl⟩
  · cases made

/-- What was provisioned is the mandate of the brief, with a constraint set exactly where
the brief states a category or an attribute. -/
theorem provision_eq_ok {brief : AgentMissionBrief} {merchantId mandateId : Uuid}
    {now : Instant} {provisioned : Provisioned}
    (done : provision brief merchantId mandateId now = .ok provisioned) :
    provisioned.mandate = mandateFor brief merchantId mandateId now ∧
      ((brief.semanticConstraints = [] ∧ provisioned.requirements = none) ∨
        ∃ request, brief.semanticConstraints ≠ [] ∧ provisioned.requirements = some request ∧
          request.merchantId = merchantId ∧ request.mandateId = mandateId ∧
          request.hardConstraints = brief.semanticConstraints) := by
  unfold provision at done
  cases stated : stateIntent brief with
  | error refusal =>
      rw [stated] at done
      cases done
  | ok =>
      rw [stated] at done
      simp only [bind, Except.bind] at done
      split at done
      · next none_stated =>
          cases done
          exact ⟨rfl, Or.inl ⟨List.isEmpty_iff.mp none_stated, rfl⟩⟩
      · next some_stated =>
          cases made : NewIntentConstraints.make merchantId mandateId
              brief.semanticConstraints with
          | error refusal =>
              rw [made] at done
              cases done
          | ok request =>
              rw [made] at done
              cases done
              have present : brief.semanticConstraints ≠ [] := by simpa using some_stated
              exact ⟨rfl, Or.inr ⟨request, present, rfl, newIntentConstraints_make_eq_ok made⟩⟩

omit [CaseFolding] in
@[simp]
theorem mem_semanticConstraints {brief : AgentMissionBrief} {constraint : HardConstraint} :
    constraint ∈ brief.semanticConstraints ↔
      constraint ∈ brief.hardConstraints ∧ constraint.isFinancial = false := by
  simp [AgentMissionBrief.semanticConstraints]

end AgentRank.Benchmark
