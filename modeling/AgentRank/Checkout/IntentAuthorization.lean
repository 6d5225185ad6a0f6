import AgentRank.Checkout.Authorization

/-!
# The semantic gate and the composed authorization

This module models `checkout/intent_authorization.py` and
`checkout/execution_authorization.py`.  Every stored constraint applies to every
quoted line, a missing or ambiguous attribute denies, and a mandate without a
constraint set authorizes nothing.

A stored rule is validated again before it is evaluated, so a rule that was
written around the application raises instead of passing.
-/

namespace AgentRank.Checkout

open Text Constraints Store

inductive IntentViolationCode
  | constraintsMerchantMismatch
  | constraintsMandateMismatch
  | checkoutHasNoLines
  | categoryNotAllowed
  | requiredAttributeMissing
  | requiredAttributeMismatch
  | attributeTypeMismatch
deriving DecidableEq

/-- One rule, one line, and what the two disagreed about. -/
structure IntentConstraintViolation where
  code : IntentViolationCode
  constraintId : Option Uuid := none
  lineId : Option Uuid := none
  variantId : Option Uuid := none
  attributeKey : Option String := none
  operator : Option ConstraintOperator := none
  expected : Json := .null
  actual : Json := .null

/-- The outcome of the semantic gate. -/
structure IntentConstraintDecision where
  constraintSetId : Uuid
  violations : List IntentConstraintViolation

def IntentConstraintDecision.satisfied (decision : IntentConstraintDecision) : Bool :=
  decision.violations.isEmpty

/-- What one line got wrong about one constraint. -/
structure LineFailure where
  code : IntentViolationCode
  actual : Json

variable [CaseFolding]

/-- What the comparison of a found value means for the line that carries it. -/
def compareFailure (spec : IntentConstraintSpec) (mismatch : IntentViolationCode)
    (actual : Json) : Option LineFailure :=
  match compare spec.fields.operator spec.fields.value actual with
  | none => some { code := .attributeTypeMismatch, actual := actual }
  | some false => some { code := mismatch, actual := actual }
  | some true => none

/-- `_check_category`. -/
def checkCategory (spec : IntentConstraintSpec) (category : Option String) :
    Option LineFailure :=
  match category with
  | none => some { code := .categoryNotAllowed, actual := .null }
  | some category =>
      compareFailure spec .categoryNotAllowed (.scalar (.string category))

/-- `_check_attribute`. -/
def checkAttribute (spec : IntentConstraintSpec) (attributes : Attributes) :
    Option LineFailure :=
  match spec.fields.attributeKey with
  | none => some { code := .requiredAttributeMissing, actual := .null }
  | some key =>
      match lookupAttribute attributes key with
      | none => some { code := .requiredAttributeMissing, actual := .null }
      | some actual => compareFailure spec .requiredAttributeMismatch actual

/-- `_check_line`. -/
def checkLine (spec : IntentConstraintSpec) (line : CheckoutLine) :
    Option LineFailure :=
  match spec.fields.kind with
  | .allowedCategory => checkCategory spec line.productCategory
  | .requiredAttribute => checkAttribute spec line.variantAttributes

omit [CaseFolding] in
/-- `_binding_violations`. -/
def bindingViolations (checkout : CheckoutSession)
    (constraintSet : IntentConstraintSet) : List IntentConstraintViolation :=
  (if checkout.merchantId ≠ constraintSet.merchantId then
    [{ code := .constraintsMerchantMismatch
       expected := Payload.uuid constraintSet.merchantId
       actual := Payload.uuid checkout.merchantId }]
    else []) ++
  if checkout.mandateId ≠ constraintSet.mandateId then
    [{ code := .constraintsMandateMismatch
       expected := Payload.uuid constraintSet.mandateId
       actual := Payload.uuid checkout.mandateId }]
  else []

/-- The violations of one stored rule, in the order of the lines. -/
def constraintViolations (lines : List CheckoutLine) (constraint : IntentConstraint) :
    Except ValueError (List IntentConstraintViolation) := do
  let spec ← IntentConstraintSpec.make constraint.fields
  .ok <| lines.filterMap fun line =>
    (checkLine spec line).map fun failure =>
      { code := failure.code
        constraintId := some constraint.id
        lineId := some line.id
        variantId := some line.variantId
        attributeKey := spec.fields.attributeKey
        operator := some spec.fields.operator
        expected := spec.fields.value.toStoredValue
        actual := failure.actual }

/-- `evaluate_intent_constraints`. -/
def evaluateIntentConstraints (checkout : CheckoutSession)
    (constraintSet : IntentConstraintSet) :
    Except ValueError IntentConstraintDecision :=
  let binding := bindingViolations checkout constraintSet
  if !binding.isEmpty then
    .ok { constraintSetId := constraintSet.id, violations := binding }
  else if checkout.lines.isEmpty then
    .ok
      { constraintSetId := constraintSet.id
        violations := [{ code := .checkoutHasNoLines }] }
  else do
    let violations ←
      constraintSet.constraints.mapM (constraintViolations checkout.lines)
    .ok { constraintSetId := constraintSet.id, violations := violations.flatten }

inductive ExecutionAuthorizationViolation
  | intentConstraintsMissing
deriving DecidableEq

/-- Both gates over one checkout, with neither answer thrown away. -/
structure CheckoutExecutionAuthorization where
  financial : CheckoutAuthorizationDecision
  intent : Option IntentConstraintDecision
  violations : List ExecutionAuthorizationViolation := []

namespace CheckoutExecutionAuthorization

def authorized (authorization : CheckoutExecutionAuthorization) : Bool :=
  authorization.violations.isEmpty && authorization.financial.allowed &&
    authorization.intent.any IntentConstraintDecision.satisfied

/-- The financial half decided again, at a later instant. -/
def withFinancial (authorization : CheckoutExecutionAuthorization)
    (financial : CheckoutAuthorizationDecision) : CheckoutExecutionAuthorization :=
  { authorization with financial := financial }

end CheckoutExecutionAuthorization

/-- `authorize_checkout_execution`. -/
def authorizeCheckoutExecution (checkout : CheckoutSession) (mandate : SpendingMandate)
    (constraintSet : Option IntentConstraintSet) (instant : Instant) :
    Except ValueError CheckoutExecutionAuthorization :=
  let financial := authorizeCheckout checkout mandate instant
  match constraintSet with
  | none =>
      .ok
        { financial := financial
          intent := none
          violations := [.intentConstraintsMissing] }
  | some constraintSet => do
      let intent ← evaluateIntentConstraints checkout constraintSet
      .ok { financial := financial, intent := some intent }

/-! ## What the semantic gate stands for -/

/-- A stored rule that is well formed and that every line keeps. -/
def ConstraintKept (lines : List CheckoutLine) (constraint : IntentConstraint) : Prop :=
  ∃ spec : IntentConstraintSpec, spec.fields = constraint.fields ∧
    ∀ line ∈ lines, checkLine spec line = none

/-- The conditions under which a quote satisfies a constraint set. -/
structure IntentSatisfied (checkout : CheckoutSession)
    (constraintSet : IntentConstraintSet) : Prop where
  sameMerchant : checkout.merchantId = constraintSet.merchantId
  sameMandate : checkout.mandateId = constraintSet.mandateId
  hasLines : checkout.lines ≠ []
  kept : ∀ constraint ∈ constraintSet.constraints,
    ConstraintKept checkout.lines constraint

omit [CaseFolding] in
theorem bindingViolations_eq_nil_iff (checkout : CheckoutSession)
    (constraintSet : IntentConstraintSet) :
    bindingViolations checkout constraintSet = [] ↔
      checkout.merchantId = constraintSet.merchantId ∧
        checkout.mandateId = constraintSet.mandateId := by
  unfold bindingViolations
  by_cases merchant : checkout.merchantId = constraintSet.merchantId <;>
    by_cases mandate : checkout.mandateId = constraintSet.mandateId <;>
      simp [merchant, mandate]

/-- One rule reports nothing exactly when it is well formed and kept. -/
theorem constraintViolations_eq_ok_nil_iff (lines : List CheckoutLine)
    (constraint : IntentConstraint) :
    constraintViolations lines constraint = .ok [] ↔
      ConstraintKept lines constraint := by
  unfold constraintViolations ConstraintKept
  constructor
  · intro evaluated
    cases made : IntentConstraintSpec.make constraint.fields with
    | error refusal =>
        rw [made] at evaluated
        cases evaluated
    | ok spec =>
        rw [made] at evaluated
        refine ⟨spec, IntentConstraintSpec.make_eq_ok_iff.mp made, ?_⟩
        have noFailure := Except.ok.inj evaluated
        rw [List.filterMap_eq_nil_iff] at noFailure
        intro line member
        simpa using noFailure line member
  · rintro ⟨spec, fieldsEq, kept⟩
    rw [← fieldsEq, IntentConstraintSpec.make_fields]
    refine congrArg Except.ok (List.filterMap_eq_nil_iff.mpr ?_)
    intro line member
    rw [kept line member]
    rfl

/-- A list of rules reports nothing exactly when every rule reports nothing. -/
theorem mapM_constraintViolations_flatten_eq_nil_iff (lines : List CheckoutLine)
    (constraints : List IntentConstraint) :
    (∃ reported, constraints.mapM (constraintViolations lines) = .ok reported ∧
        reported.flatten = []) ↔
      ∀ constraint ∈ constraints, ConstraintKept lines constraint := by
  induction constraints with
  | nil =>
      simp [List.mapM_nil, pure, Except.pure]
  | cons first rest ih =>
      rw [List.forall_mem_cons, ← ih, ← constraintViolations_eq_ok_nil_iff]
      rw [List.mapM_cons]
      cases headEq : constraintViolations lines first with
      | error refusal => simp [bind, Except.bind]
      | ok head =>
          cases tailEq : rest.mapM (constraintViolations lines) with
          | error refusal => simp [bind, Except.bind]
          | ok tail => simp [bind, Except.bind, pure, Except.pure]

/-- The semantic gate is satisfied exactly when it stands. -/
theorem evaluateIntentConstraints_satisfied_iff (checkout : CheckoutSession)
    (constraintSet : IntentConstraintSet) :
    (∃ decision, evaluateIntentConstraints checkout constraintSet = .ok decision ∧
        decision.satisfied = true) ↔
      IntentSatisfied checkout constraintSet := by
  unfold evaluateIntentConstraints
  by_cases bound : bindingViolations checkout constraintSet = []
  · obtain ⟨merchant, mandate⟩ :=
      (bindingViolations_eq_nil_iff checkout constraintSet).mp bound
    by_cases empty : checkout.lines = []
    · simp only [bound, empty, List.isEmpty_nil, Bool.not_true, Bool.false_eq_true,
        if_false, if_true]
      constructor
      · rintro ⟨decision, decisionEq, satisfied⟩
        cases decisionEq
        cases satisfied
      · intro satisfied
        exact absurd empty satisfied.hasLines
    · have lines : checkout.lines.isEmpty = false := by simpa using empty
      simp only [bound, lines, List.isEmpty_nil, Bool.not_true, Bool.false_eq_true,
        if_false]
      have rules :=
        mapM_constraintViolations_flatten_eq_nil_iff checkout.lines
          constraintSet.constraints
      constructor
      · rintro ⟨decision, decisionEq, satisfied⟩
        cases reportedEq :
            constraintSet.constraints.mapM (constraintViolations checkout.lines) with
        | error refusal =>
            rw [reportedEq] at decisionEq
            cases decisionEq
        | ok reported =>
            rw [reportedEq] at decisionEq
            cases decisionEq
            refine ⟨merchant, mandate, empty, rules.mp ⟨reported, reportedEq, ?_⟩⟩
            exact List.isEmpty_iff.mp satisfied
      · intro satisfied
        obtain ⟨reported, reportedEq, noneReported⟩ := rules.mpr satisfied.kept
        rw [reportedEq]
        exact ⟨_, rfl, List.isEmpty_iff.mpr noneReported⟩
  · have present : (bindingViolations checkout constraintSet).isEmpty = false := by
      simpa using bound
    simp only [present, Bool.not_false, if_true]
    constructor
    · rintro ⟨decision, decisionEq, satisfied⟩
      cases decisionEq
      rw [IntentConstraintDecision.satisfied, present] at satisfied
      cases satisfied
    · intro satisfied
      exact absurd ((bindingViolations_eq_nil_iff checkout constraintSet).mpr
        ⟨satisfied.sameMerchant, satisfied.sameMandate⟩) bound

/-- The composed authorization permits exactly when both gates stand. -/
theorem authorizeCheckoutExecution_authorized_iff (checkout : CheckoutSession)
    (mandate : SpendingMandate) (constraintSet : Option IntentConstraintSet)
    (instant : Instant) :
    (∃ authorization,
        authorizeCheckoutExecution checkout mandate constraintSet instant =
          .ok authorization ∧ authorization.authorized = true) ↔
      FinanciallyAuthorized checkout mandate instant ∧
        ∃ found, constraintSet = some found ∧ IntentSatisfied checkout found := by
  cases constraintSet with
  | none =>
      constructor
      · rintro ⟨authorization, authorizationEq, authorized⟩
        cases authorizationEq
        simp [CheckoutExecutionAuthorization.authorized] at authorized
      · rintro ⟨_, found, foundEq, _⟩
        cases foundEq
  | some found =>
      constructor
      · rintro ⟨authorization, authorizationEq, authorized⟩
        unfold authorizeCheckoutExecution at authorizationEq
        cases intentEq : evaluateIntentConstraints checkout found with
        | error refusal =>
            simp only [intentEq] at authorizationEq
            cases authorizationEq
        | ok intent =>
            simp only [intentEq] at authorizationEq
            cases authorizationEq
            simp only [CheckoutExecutionAuthorization.authorized, List.isEmpty_nil,
              Bool.true_and, Option.any_some, Bool.and_eq_true] at authorized
            refine ⟨(authorizeCheckout_allowed_iff _ _ _).mp authorized.1, found, rfl, ?_⟩
            exact (evaluateIntentConstraints_satisfied_iff checkout found).mp
              ⟨intent, intentEq, authorized.2⟩
      · rintro ⟨financial, other, otherEq, satisfied⟩
        cases otherEq
        obtain ⟨intent, intentEq, intentSatisfied⟩ :=
          (evaluateIntentConstraints_satisfied_iff checkout found).mpr satisfied
        refine ⟨_, by unfold authorizeCheckoutExecution; simp only [intentEq]; rfl, ?_⟩
        simp only [CheckoutExecutionAuthorization.authorized, List.isEmpty_nil,
          Bool.true_and, Option.any_some, Bool.and_eq_true]
        exact ⟨(authorizeCheckout_allowed_iff _ _ _).mpr financial, intentSatisfied⟩

end AgentRank.Checkout
