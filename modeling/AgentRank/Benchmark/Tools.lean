import AgentRank.Benchmark.Evidence

/-!
# The tool ledger of an in process buyer

This module models `benchmark/tools.py`, over the calls of one mission and what the commerce
services answered each of them.  Arguments are those of the operation, so what
`BuyerArgumentError` refuses is not among the calls.
-/

namespace AgentRank.Benchmark

open Checkout Payments Store

/-- The buyer operations whose answers state no decision. -/
inductive PlainOperation
  | searchProducts
  | getProduct (productId : Uuid)
  | authorizeSpending
  | stateRequirements (mandateId : Uuid)
  | createCheckout
  | getCheckout (checkoutId : Uuid)

/-- What a commerce service raises, by the class that the boundary tells apart. -/
inductive ServiceError
  | notFound (resource identifier : String)
  | conflict (reason detail : String)
  | unauthenticated
  | upstream (reason : String)
  /-- A `SQLAlchemyError`.  The database is unavailable where it is an `OperationalError` or
  an `InterfaceError`. -/
  | database (exception : String) (unavailable : Bool)
  | unexpected (exception : String)
deriving DecidableEq

/-- One call of the buyer, and what came of it. -/
inductive BuyerCall
  | plain (operation : PlainOperation) (outcome : Except ServiceError Unit)
  | prepareCheckout (checkoutId : Uuid)
      (outcome : Except ServiceError CheckoutExecutionReadiness)
  | completeCheckout (checkoutId : Uuid) (outcome : Except ServiceError PaymentAdmission)

def PlainOperation.value : PlainOperation → String
  | .searchProducts => "search_products"
  | .getProduct _ => "get_product"
  | .authorizeSpending => "authorize_spending"
  | .stateRequirements _ => "state_requirements"
  | .createCheckout => "create_checkout"
  | .getCheckout _ => "get_checkout"

namespace BuyerCall

def operation : BuyerCall → String
  | plain operation _ => operation.value
  | prepareCheckout _ _ => "prepare_checkout"
  | completeCheckout _ _ => "complete_checkout"

/-- What was raised, when the call did not return. -/
def raised? : BuyerCall → Option ServiceError
  | plain _ (.error error) => some error
  | prepareCheckout _ (.error error) => some error
  | completeCheckout _ (.error error) => some error
  | _ => none

/-- The answer about a checkout, when the call returned one. -/
def answer? : BuyerCall → Option CommerceAnswer
  | prepareCheckout _ (.ok preparation) => some (.prepared preparation)
  | completeCheckout _ (.ok admission) => some (.paid admission)
  | _ => none

/-- `complete_checkout` was called. -/
def paying : BuyerCall → Bool
  | completeCheckout _ _ => true
  | _ => false

end BuyerCall

def catalogResources : List String :=
  ["product", "variant"]

def catalogRefusals : List String :=
  ["insufficient_inventory", "variant_inactive", "product_inactive", "mixed_currencies"]

def authorizationRefusals : List String :=
  ["payment_not_authorized"]

/-- What one call came to.  Only a failure names an origin. -/
inductive ToolOutcome
  | answered
  | refused (detail : String)
  | failed (detail : String) (origin : FaultOrigin)
deriving DecidableEq

structure ToolCall where
  operation : String
  outcome : ToolOutcome
deriving DecidableEq

def ToolCall.origin (call : ToolCall) : Option FaultOrigin :=
  match call.outcome with
  | .failed _ origin => some origin
  | .answered | .refused _ => none

/-- The interruption that a failed call is. -/
def ToolCall.fault (call : ToolCall) : Option ExecutionFault :=
  match call.outcome with
  | .failed detail origin =>
      some
        { origin := origin
          detail := if detail.isEmpty then s!"{call.operation} did not answer" else detail
          operation := some call.operation }
  | .answered | .refused _ => none

/-- `_refusal` and the branches of `_watching`: what an exception says about a call. -/
def watched : ServiceError → ToolOutcome
  | .notFound resource _ =>
      if resource ∈ catalogResources then .refused s!"{resource} was not found"
      else .failed s!"{resource} was not found" .agent
  | .conflict reason _ =>
      if reason ∈ catalogRefusals then .refused reason else .failed reason .agent
  | .unauthenticated => .failed "the harness was not authorized to make this call" .harness
  | .upstream reason => .failed reason .merchant
  | .database exception _ => .failed exception .harness
  | .unexpected exception => .failed exception .merchant

/-- `_admission`: what a payment answer means when no attempt was admitted. -/
def admissionOutcome (admission : PaymentAdmission) : ToolOutcome :=
  match admission.admitted, admission.refusal with
  | true, _ | false, none => .answered
  | false, some refusal =>
      if refusal.value ∈ authorizationRefusals then .refused refusal.value
      else .failed refusal.value .agent

/-- What `MeasuredBuyerSurface` records of one call. -/
def BuyerCall.recorded (call : BuyerCall) : List ToolCall :=
  match call.raised? with
  | some error => [{ operation := call.operation, outcome := watched error }]
  | none =>
      { operation := call.operation, outcome := .answered } ::
        match call with
        | .completeCheckout _ (.ok admission) =>
            [{ operation := call.operation, outcome := admissionOutcome admission }]
        | _ => []

structure ToolLedger where
  calls : List ToolCall := []
  paymentAttempted : Bool := false
  evidence : CommerceEvidence := {}

namespace ToolLedger

/-- One call through `MeasuredBuyerSurface`.  A payment call is noted on the way in. -/
def watch (ledger : ToolLedger) (call : BuyerCall) : ToolLedger where
  calls := ledger.calls ++ call.recorded
  paymentAttempted := ledger.paymentAttempted || call.paying
  evidence :=
    match call.answer? with
    | some answer => afterAnswer ledger.evidence answer
    | none => ledger.evidence

/-- The ledger of a mission, over its calls in their order. -/
def of (calls : List BuyerCall) : ToolLedger :=
  calls.foldl watch {}

/-- `fault`: the first call that failed. -/
def fault (ledger : ToolLedger) : Option ExecutionFault :=
  ledger.calls.findSome? ToolCall.fault

end ToolLedger

/-- The side that a call failed on, when it failed. -/
def BuyerCall.toolOrigin (call : BuyerCall) : Option FaultOrigin :=
  call.recorded.findSome? ToolCall.origin

namespace ToolLedger

variable (calls : List BuyerCall) (call : BuyerCall)

theorem of_append_singleton : of (calls ++ [call]) = (of calls).watch call := by
  rw [of, List.foldl_append]
  rfl

@[simp]
theorem calls_of : (of calls).calls = calls.flatMap BuyerCall.recorded := by
  induction calls using List.reverseRecOn with
  | nil => rfl
  | append_singleton calls call inductionHypothesis =>
      rw [of_append_singleton, watch, inductionHypothesis, List.flatMap_append,
        List.flatMap_singleton]

@[simp]
theorem paymentAttempted_of : (of calls).paymentAttempted = calls.any BuyerCall.paying := by
  induction calls using List.reverseRecOn with
  | nil => rfl
  | append_singleton calls call inductionHypothesis =>
      rw [of_append_singleton, watch, inductionHypothesis, List.any_append, List.any_cons,
        List.any_nil, Bool.or_false]

@[simp]
theorem evidence_of : (of calls).evidence = evidenceOf (calls.filterMap BuyerCall.answer?) := by
  induction calls using List.reverseRecOn with
  | nil => rfl
  | append_singleton calls call inductionHypothesis =>
      rw [of_append_singleton, watch, inductionHypothesis, List.filterMap_append]
      cases answered : call.answer? with
      | none => simp [answered]
      | some answer => simp [answered, evidenceOf_append_singleton]

/-- The origin of the fault is that of the first call that failed. -/
theorem origin_fault_of :
    (of calls).fault.map ExecutionFault.origin = calls.findSome? BuyerCall.toolOrigin := by
  have perCall : Option.map ExecutionFault.origin ∘ ToolCall.fault = ToolCall.origin := by
    funext call
    cases call with
    | mk operation outcome => cases outcome <;> rfl
  rw [fault, calls_of, List.map_findSome?, perCall]
  induction calls with
  | nil => rfl
  | cons call calls inductionHypothesis =>
      rw [List.flatMap_cons, List.findSome?_append, inductionHypothesis, List.findSome?_cons]
      change (call.toolOrigin).or _ = _
      cases call.toolOrigin <;> rfl

end ToolLedger

end AgentRank.Benchmark
