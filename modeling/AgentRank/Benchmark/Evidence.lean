import AgentRank.Benchmark.Substantiation
import AgentRank.Payments.Admission

/-!
# What the merchant answered during one mission

This module models `benchmark/evidence.py`.  A denial and a preparation without stock leave
no row, so the trusted side keeps what the merchant answered.  It keeps one record, and
every answer about any checkout replaces part of it.

A preparation replaces the whole record.  An answer to a payment request leaves alone
whether stock was refused.  So the record says the decision of the last answer, and the
stock of the last preparation.
-/

namespace AgentRank.Checkout

def CheckoutAuthorizationViolation.value : CheckoutAuthorizationViolation → String
  | .mandateNotActive => "MANDATE_NOT_ACTIVE"
  | .mandateNotYetValid => "MANDATE_NOT_YET_VALID"
  | .mandateExpired => "MANDATE_EXPIRED"
  | .checkoutMerchantMismatch => "CHECKOUT_MERCHANT_MISMATCH"
  | .checkoutMandateMismatch => "CHECKOUT_MANDATE_MISMATCH"
  | .checkoutNotOpen => "CHECKOUT_NOT_OPEN"
  | .checkoutExpired => "CHECKOUT_EXPIRED"
  | .currencyMismatch => "CURRENCY_MISMATCH"
  | .maxTotalExceeded => "MAX_TOTAL_EXCEEDED"
  | .maxQuantityExceeded => "MAX_QUANTITY_EXCEEDED"

def IntentViolationCode.value : IntentViolationCode → String
  | .constraintsMerchantMismatch => "CONSTRAINTS_MERCHANT_MISMATCH"
  | .constraintsMandateMismatch => "CONSTRAINTS_MANDATE_MISMATCH"
  | .checkoutHasNoLines => "CHECKOUT_HAS_NO_LINES"
  | .categoryNotAllowed => "CATEGORY_NOT_ALLOWED"
  | .requiredAttributeMissing => "REQUIRED_ATTRIBUTE_MISSING"
  | .requiredAttributeMismatch => "REQUIRED_ATTRIBUTE_MISMATCH"
  | .attributeTypeMismatch => "ATTRIBUTE_TYPE_MISMATCH"

def ExecutionAuthorizationViolation.value : ExecutionAuthorizationViolation → String
  | .intentConstraintsMissing => "INTENT_CONSTRAINTS_MISSING"

end AgentRank.Checkout

namespace AgentRank.Benchmark

open Checkout Inventory Payments Relational Store

/-- `authorization_of`: both gates' answer, as one observation. -/
def authorizationOf (decision : CheckoutExecutionAuthorization) : ObservedAuthorization where
  allowed := decision.authorized
  violations :=
    decision.violations.map ExecutionAuthorizationViolation.value ++
      decision.financial.violations.map CheckoutAuthorizationViolation.value ++
      (decision.intent.map fun intent =>
        intent.violations.map fun violation => violation.code.value).getD []

/-- What a purchase that both gates allowed is answered with. -/
def allowance : ObservedAuthorization where
  allowed := true

/-- An answer about a checkout: to a preparation, or to a request to pay. -/
inductive CommerceAnswer
  | prepared (preparation : CheckoutExecutionReadiness)
  | paid (admission : PaymentAdmission)

namespace CommerceAnswer

def checkoutId : CommerceAnswer → Uuid
  | prepared preparation => preparation.checkoutId
  | paid admission => admission.checkoutId

/-- What the authorization layer said in an answer. -/
def decision : CommerceAnswer → ObservedAuthorization
  | prepared preparation => authorizationOf preparation.authorization
  | paid admission => authorizationOf admission.authorization

/-- What an answer says about stock, which only a preparation does. -/
def stock? : CommerceAnswer → Option Bool
  | prepared preparation =>
      some (preparation.authorization.authorized && !preparation.ready)
  | paid _ => none

end CommerceAnswer

/-- `after_preparation`. -/
def afterPreparation (evidence : CommerceEvidence) (preparation : CheckoutExecutionReadiness) :
    CommerceEvidence :=
  { evidence with
    authorization := some (authorizationOf preparation.authorization)
    stockUnavailable := preparation.authorization.authorized && !preparation.ready
    checkoutId := some preparation.checkoutId }

/-- `after_payment`. -/
def afterPayment (evidence : CommerceEvidence) (admission : PaymentAdmission) :
    CommerceEvidence :=
  { evidence with
    authorization := some (authorizationOf admission.authorization)
    checkoutId := some admission.checkoutId }

def afterAnswer (evidence : CommerceEvidence) : CommerceAnswer → CommerceEvidence
  | .prepared preparation => afterPreparation evidence preparation
  | .paid admission => afterPayment evidence admission

/-- The record of a mission, over its answers in their order. -/
def evidenceOf (answers : List CommerceAnswer) : CommerceEvidence :=
  answers.foldl afterAnswer {}

/-- The decision of the last answer. -/
def lastDecision (answers : List CommerceAnswer) : Option ObservedAuthorization :=
  answers.getLast?.map CommerceAnswer.decision

/-- Whether the last preparation was authorized and held no stock. -/
def lastRefusesStock (answers : List CommerceAnswer) : Bool :=
  (answers.reverse.findSome? CommerceAnswer.stock?).getD false

section Record

variable (answers : List CommerceAnswer) (answer : CommerceAnswer)

theorem evidenceOf_append_singleton :
    evidenceOf (answers ++ [answer]) = afterAnswer (evidenceOf answers) answer := by
  rw [evidenceOf, List.foldl_append]
  rfl

@[simp]
theorem authorization_evidenceOf :
    (evidenceOf answers).authorization = lastDecision answers := by
  induction answers using List.reverseRecOn with
  | nil => rfl
  | append_singleton answers answer _ =>
      rw [evidenceOf_append_singleton, lastDecision, List.getLast?_concat]
      cases answer <;> rfl

@[simp]
theorem checkoutId_evidenceOf :
    (evidenceOf answers).checkoutId = answers.getLast?.map CommerceAnswer.checkoutId := by
  induction answers using List.reverseRecOn with
  | nil => rfl
  | append_singleton answers answer _ =>
      rw [evidenceOf_append_singleton, List.getLast?_concat]
      cases answer <;> rfl

@[simp]
theorem stockUnavailable_evidenceOf :
    (evidenceOf answers).stockUnavailable = lastRefusesStock answers := by
  induction answers using List.reverseRecOn with
  | nil => rfl
  | append_singleton answers answer inductionHypothesis =>
      rw [evidenceOf_append_singleton, lastRefusesStock, List.reverse_concat,
        List.findSome?_cons]
      cases answer with
      | prepared preparation => rfl
      | paid admission => exact inductionHypothesis

/-- The record is what its three parts are. -/
theorem evidenceOf_eq :
    evidenceOf answers =
      { authorization := lastDecision answers
        stockUnavailable := lastRefusesStock answers
        checkoutId := answers.getLast?.map CommerceAnswer.checkoutId } := by
  rw [← authorization_evidenceOf, ← stockUnavailable_evidenceOf, ← checkoutId_evidenceOf]

end Record

section Admission

variable [Text.CaseFolding]

end Admission

end AgentRank.Benchmark
