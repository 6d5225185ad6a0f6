import AgentRank.Benchmark.Isolation
import AgentRank.Benchmark.Tools

/-!
# The request ledger of the loopback endpoint

This module models the recording half of `benchmark/endpoint.py`, over the same calls as the
tool ledger.  A call arrives as a request, and the handlers of `main.py` turn what a service
raises into a status and a body.

How a body is written is not modelled.  It is a parameter, `AnswerBodies`, together with
what reading it back gives.
-/

namespace AgentRank.Benchmark

open Checkout Payments Store

def commerce : String := "/api/v1/commerce"

def preparationPathSuffix : String := "/prepare-execution"

def databaseUnavailable : String := "database_unavailable"

def maxRecordedBody : Nat := 256 * 1024

def PlainOperation.method : PlainOperation → String
  | .getProduct _ | .getCheckout _ => "GET"
  | .searchProducts | .authorizeSpending | .stateRequirements _ | .createCheckout => "POST"

def PlainOperation.path : PlainOperation → String
  | .searchProducts => commerce ++ "/products/search"
  | .getProduct productId => commerce ++ "/products/" ++ toString productId
  | .authorizeSpending => commerce ++ "/mandates"
  | .stateRequirements mandateId =>
      commerce ++ "/mandates/" ++ toString mandateId ++ "/constraints"
  | .createCheckout => commerce ++ "/checkouts"
  | .getCheckout checkoutId => commerce ++ "/checkouts/" ++ toString checkoutId

/-- The status of an answer, as the route declares it. -/
def PlainOperation.status : PlainOperation → Nat
  | .authorizeSpending | .stateRequirements _ | .createCheckout => 201
  | .searchProducts | .getProduct _ | .getCheckout _ => 200

namespace BuyerCall

def method : BuyerCall → String
  | plain operation _ => operation.method
  | prepareCheckout _ _ | completeCheckout _ _ => "POST"

def path : BuyerCall → String
  | plain operation _ => operation.path
  | prepareCheckout checkoutId _ =>
      commerce ++ "/checkouts/" ++ toString checkoutId ++ preparationPathSuffix
  | completeCheckout checkoutId _ =>
      commerce ++ "/checkouts/" ++ toString checkoutId ++ paymentPathSuffix

end BuyerCall

/-- The status and the error code that the handlers answer an exception with.  The last two
have no handler, and a body without a code. -/
def handled : ServiceError → Nat × Option String
  | .notFound _ _ => (404, some "not_found")
  | .conflict reason _ => (409, some reason)
  | .unauthenticated => (401, some "unauthenticated")
  | .upstream reason => (502, some reason)
  | .database _ true => (503, some databaseUnavailable)
  | .database _ false => (500, none)
  | .unexpected _ => (500, none)

/-- `_Recording.__call__`: the request as the server saw it.  The code is kept of a server
error only. -/
def BuyerCall.served (call : BuyerCall) : ServedRequest where
  method := call.method
  path := call.path
  status :=
    match call.raised?, call with
    | some error, _ => (handled error).1
    | none, .plain operation _ => operation.status
    | none, _ => 200
  failure :=
    call.raised?.bind fun error =>
      if 500 ≤ (handled error).1 then (handled error).2 else none

/-- The bodies that the server writes for the answers that carry a decision, their length in
bytes, and what is read back from one. -/
class AnswerBodies where
  Body : Type
  length : Body → Nat
  body : CommerceAnswer → Body
  readBody : Body → Option CommerceAnswer
  /-- What is read back is the same evidence. -/
  readBack : ∀ (evidence : CommerceEvidence) (answer : CommerceAnswer),
    (readBody (body answer)).map (afterAnswer evidence) = some (afterAnswer evidence answer)

section Ledger

variable [AnswerBodies]

/-- The body of an answer, when it is kept.  Of a body that is not kept nothing remains, which
does not parse. -/
def recordedBody (answer : CommerceAnswer) : Option (AnswerBodies.Body) :=
  let body := AnswerBodies.body answer
  if AnswerBodies.length body ≤ maxRecordedBody then some body else none

structure RequestLedger where
  served : List ServedRequest := []
  evidence : CommerceEvidence := {}

/-- `_answers_a_decision`. -/
def answersADecision (request : ServedRequest) : Bool :=
  decide (request.method = "POST") &&
    (request.path.endsWith preparationPathSuffix || request.path.endsWith paymentPathSuffix)

namespace RequestLedger

/-- `observe`: the evidence in the body of a decision that was answered. -/
def observe (evidence : CommerceEvidence) (request : ServedRequest)
    (answer : Option CommerceAnswer) : CommerceEvidence :=
  if answersADecision request && decide (request.status = 200) then
    match (answer.bind recordedBody).bind AnswerBodies.readBody with
    | some read => afterAnswer evidence read
    | none => evidence
  else evidence

/-- One request that the endpoint answered. -/
def record (ledger : RequestLedger) (call : BuyerCall) : RequestLedger where
  served := ledger.served ++ [call.served]
  evidence := observe ledger.evidence call.served call.answer?

/-- The ledger of a mission, over its calls in their order. -/
def of (calls : List BuyerCall) : RequestLedger :=
  calls.foldl record {}

end RequestLedger

/-! ## What the ledger says of a mission -/

/-- The answer of a call whose body is kept. -/
def BuyerCall.kept? (call : BuyerCall) : Option CommerceAnswer :=
  call.answer?.filter fun answer =>
    decide (AnswerBodies.length (AnswerBodies.body answer) ≤ maxRecordedBody)

end Ledger

theorem endsWith_iff (text ending : String) :
    text.endsWith ending = true ↔ ending.toList <:+ text.toList := by
  simp [← String.endsWith_toSlice]

theorem endsWith_append (start ending : String) : (start ++ ending).endsWith ending = true := by
  rw [endsWith_iff, String.toList_append]
  exact List.suffix_append _ _

/-- Only a payment call reaches the payment route. -/
theorem endsWith_paymentPath (call : BuyerCall) :
    (decide (call.method = "POST") && call.path.endsWith paymentPathSuffix) = call.paying := by
  rw [Bool.eq_iff_iff, Bool.and_eq_true, endsWith_iff, decide_eq_true_eq]
  cases call with
  | plain operation outcome =>
      cases operation <;>
        simp [BuyerCall.method, BuyerCall.path, BuyerCall.paying, PlainOperation.method,
          PlainOperation.path, commerce, paymentPathSuffix, ← List.reverse_prefix]
  | prepareCheckout checkoutId outcome =>
      simp [BuyerCall.method, BuyerCall.path, BuyerCall.paying, commerce, paymentPathSuffix,
        preparationPathSuffix, ← List.reverse_prefix]
  | completeCheckout checkoutId outcome =>
      exact iff_of_true ⟨rfl, (endsWith_iff _ _).mp (endsWith_append _ _)⟩ rfl

/-- A call that returned a decision is one whose answer is read. -/
theorem answersADecision_served {call : BuyerCall} {answer : CommerceAnswer}
    (answered : call.answer? = some answer) :
    answersADecision call.served = true ∧ call.served.status = 200 := by
  cases call with
  | plain operation outcome => cases answered
  | prepareCheckout checkoutId outcome =>
      cases outcome with
      | error error => cases answered
      | ok preparation =>
          refine ⟨?_, rfl⟩
          simp only [answersADecision, BuyerCall.served, BuyerCall.method, BuyerCall.path,
            endsWith_append, decide_true, Bool.true_or, Bool.and_self]
  | completeCheckout checkoutId outcome =>
      cases outcome with
      | error error => cases answered
      | ok admission =>
          refine ⟨?_, rfl⟩
          simp only [answersADecision, BuyerCall.served, BuyerCall.method, BuyerCall.path,
            endsWith_append, decide_true, Bool.or_true, Bool.and_self]

namespace RequestLedger

variable [AnswerBodies] (calls : List BuyerCall) (call : BuyerCall)

/-- The evidence is that of an answer whose body is kept. -/
theorem observe_served (evidence : CommerceEvidence) :
    observe evidence call.served call.answer? =
      match call.kept? with
      | some answer => afterAnswer evidence answer
      | none => evidence := by
  unfold BuyerCall.kept?
  cases answered : call.answer? with
  | none => simp [observe]
  | some answer =>
      obtain ⟨decides, status⟩ := answersADecision_served answered
      simp only [observe, decides, status, decide_true, Bool.and_self, if_true,
        Option.bind_some, recordedBody, Option.filter_some]
      by_cases fits : AnswerBodies.length (AnswerBodies.body answer) ≤ maxRecordedBody
      · have readBack := AnswerBodies.readBack evidence answer
        rw [Option.map_eq_some_iff] at readBack
        obtain ⟨read, readEq, same⟩ := readBack
        simp [fits, readEq, same]
      · simp [fits]

theorem of_append_singleton : of (calls ++ [call]) = (of calls).record call := by
  rw [of, List.foldl_append]
  rfl

@[simp]
theorem served_of : (of calls).served = calls.map BuyerCall.served := by
  induction calls using List.reverseRecOn with
  | nil => rfl
  | append_singleton calls call inductionHypothesis =>
      rw [of_append_singleton, record, inductionHypothesis, List.map_append, List.map_singleton]

@[simp]
theorem evidence_of : (of calls).evidence = evidenceOf (calls.filterMap BuyerCall.kept?) := by
  induction calls using List.reverseRecOn with
  | nil => rfl
  | append_singleton calls call inductionHypothesis =>
      rw [of_append_singleton, record, observe_served, inductionHypothesis,
        List.filterMap_append]
      cases kept : call.kept? with
      | none => simp [kept]
      | some answer => simp [kept, evidenceOf_append_singleton]

theorem paymentAttempted_served :
    paymentAttempted (of calls).served = calls.any BuyerCall.paying := by
  rw [served_of, paymentAttempted, List.any_map]
  congr 1
  funext call
  exact endsWith_paymentPath call

end RequestLedger

end AgentRank.Benchmark
