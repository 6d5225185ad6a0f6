import AgentRank.Checkout.Service
import AgentRank.Payments.Admission

/-!
# Dispatching a payment and recording what came back

This module models `payments/provider.py`, `payments/references.py` and
`payments/execution.py`.  The provider is called with no transaction open, so
every operation is cut into the transactions around its call: marking the
dispatch, recording an outcome, and appending that somebody asked.

A terminal attempt is never rewritten.  A definitive answer that disagrees with it
is answered with a conflict, which is recorded and changes nothing else.
-/

namespace AgentRank.Payments

open Checkout Constraints Inventory Relational Store Transaction

/-- What a provider says happened, in three classes. -/
inductive ProviderOutcome
  | succeeded
  | failed
  | unknown
deriving DecidableEq

def ProviderOutcome.value : ProviderOutcome → String
  | succeeded => "SUCCEEDED"
  | failed => "FAILED"
  | unknown => "UNKNOWN"

/-- What one `execute` call produced. -/
structure ProviderResult where
  outcome : ProviderOutcome
  reference : Option String := none
  failureCode : Option String := none
deriving DecidableEq

/-- Whether a provider has a record of one identity, and whether that is final. -/
inductive ProviderRecord
  | present
  | absent
  | neverExecuted
deriving DecidableEq

def ProviderRecord.value : ProviderRecord → String
  | present => "PRESENT"
  | absent => "ABSENT"
  | neverExecuted => "NEVER_EXECUTED"

/-- What a provider says about an identity.  Only a record that is present may
carry an outcome. -/
structure ProviderQueryResult where
  outcome : ProviderOutcome
  record : ProviderRecord := .present
  reference : Option String := none
  failureCode : Option String := none
  undecided : record ≠ .present → outcome = .unknown

/-- The digest behind the identity a provider is given. -/
class OperationDigest where
  encode : Uuid → Uuid → String

/-- Everything a provider is told when it is asked to pay. -/
structure PaymentInstruction where
  attemptId : Uuid
  operationReference : String
  idempotencyKey : String
  amountMinor : Nat
  currency : String
  merchantReference : String
  checkoutReference : String
deriving DecidableEq

/-- Everything a provider is told when it is asked what happened. -/
structure PaymentQuery where
  operationReference : String
  idempotencyKey : String
  dispatchedAt : Instant
deriving DecidableEq

section Identity

variable [OperationDigest]

/-- `provider_operation_reference`. -/
def providerOperationReference (merchantId attemptId : Uuid) : String :=
  s!"ar_{OperationDigest.encode merchantId attemptId}"

/-- `_instruction`. -/
def instruction (attempt : PaymentAttempt) : PaymentInstruction where
  attemptId := attempt.id
  operationReference := providerOperationReference attempt.merchantId attempt.id
  idempotencyKey := attempt.idempotencyKey
  amountMinor := attempt.amountMinor
  currency := attempt.currency
  merchantReference := toString attempt.merchantId
  checkoutReference := toString attempt.checkoutId

/-- `_question`, which an attempt that was never dispatched cannot be asked. -/
def question (attempt : PaymentAttempt) : Except ValueError PaymentQuery :=
  match attempt.dispatchedAt with
  | none =>
      .error
        { message :=
            s!"payment attempt {attempt.id} has no dispatch instant to query from" }
  | some dispatchedAt =>
      .ok
        { operationReference := providerOperationReference attempt.merchantId attempt.id
          idempotencyKey := attempt.idempotencyKey
          dispatchedAt := dispatchedAt }

end Identity

/-! ## Outcomes -/

/-- A definitive observation that disagrees with the terminal state on record. -/
structure OutcomeConflict where
  authoritative : PaymentAttemptStatus
  observed : ProviderOutcome
deriving DecidableEq

/-- What one execution, reconciliation or abandonment produced. -/
structure PaymentOutcome where
  attempt : PaymentAttempt
  changed : Bool := false
  providerCalled : Bool := false
  conflict : Option OutcomeConflict := none
  providerRecord : Option ProviderRecord := none

def unspecifiedDecline : String := "PROVIDER_DECLINED"

/-- The failure recorded when a provider guarantees that nothing happened. -/
def providerNeverExecuted : String := "PROVIDER_NEVER_EXECUTED"

/-- An optional text, or a fallback where it is absent or empty. -/
def textOr (text : Option String) (fallback : String) : String :=
  match text with
  | none => fallback
  | some text => if text.isEmpty then fallback else text

/-- `_fallback_reference`. -/
def fallbackReference (attempt : PaymentAttempt) : String :=
  s!"unreferenced:{attempt.id}"

theorem toList_fallbackReference (attempt : PaymentAttempt) :
    (fallbackReference attempt).toList = "unreferenced:".toList ++ attempt.id.chars := by
  have written : fallbackReference attempt = "unreferenced:" ++ toString attempt.id := by
    simp [fallbackReference]
    rfl
  rw [written, String.toList_append, Uuid.toList_toString]

/-- The reference a success is given for want of another fits its column. -/
theorem fallbackReference_storable (attempt : PaymentAttempt) :
    isStorableReference (fallbackReference attempt) = true := by
  have length : (fallbackReference attempt).length ≤ 128 := by
    rw [← String.length_toList, toList_fallbackReference, List.length_append, Uuid.length_chars]
    decide
  have printable : ∀ char ∈ (fallbackReference attempt).toList, char ≠ '\x00' := by
    intro char member
    rw [toList_fallbackReference, List.mem_append] at member
    rcases member with label | digit
    · have all : ("unreferenced:".toList.all fun char => char ≠ '\x00') = true := by decide
      exact of_decide_eq_true (List.all_eq_true.mp all char label)
    · exact (Uuid.ne_of_mem_chars digit).2
  have notBlank : ∃ char ∈ (fallbackReference attempt).toList, char ≠ ' ' := by
    rw [toList_fallbackReference]
    exact ⟨'u', List.mem_append_left _ (by decide), by decide⟩
  simpa [isStorableReference, fitsColumn] using ⟨⟨length, printable⟩, notBlank⟩

/-- `_from_query`: an outcome this application can record, and why stock would go
back. -/
def fromQuery (found : ProviderQueryResult) : ProviderResult × ReleaseReason :=
  if found.record = .neverExecuted then
    ({ outcome := .failed, failureCode := some providerNeverExecuted }, .paymentNotExecuted)
  else
    ({ outcome := found.outcome
       reference := found.reference
       failureCode := found.failureCode },
      .paymentDeclined)

/-- The one attempt under an identifier. -/
def findAttempt (attemptId : Uuid) : Session PaymentAttempt := do
  let database ← get
  Transaction.require (database.attempts.get? attemptId)
    (.notFound "payment_attempt" (toString attemptId))

/-- An event the provider is the actor of. -/
def outcomeEvent (attempt : PaymentAttempt) (eventType : EventType)
    (payload : List (String × Json)) : AuditEvent where
  merchantId := attempt.merchantId
  actorType := .paymentProvider
  credentialId := none
  eventType := eventType
  resourceType := paymentResource
  resourceId := attempt.id
  payload := payload

/-- The event the service's `_append` writes. -/
def paymentEvent (attempt : PaymentAttempt) (eventType : EventType)
    (reference failureCode : Option String) : AuditEvent :=
  outcomeEvent attempt eventType
    ([("checkout_id", Payload.uuid attempt.checkoutId),
      ("mandate_id", Payload.uuid attempt.mandateId),
      ("amount_minor", Payload.number attempt.amountMinor),
      ("currency", Payload.text attempt.currency),
      ("status", Payload.text attempt.status.value)] ++
      (reference.map fun reference => ("provider_reference", Payload.text reference)).toList ++
      (failureCode.map fun code => ("failure_code", Payload.text code)).toList)

/-- What stands, and what was observed against it. -/
def conflictEvent (attempt : PaymentAttempt) (conflict : OutcomeConflict) : AuditEvent :=
  outcomeEvent attempt .paymentOutcomeConflict
    [("checkout_id", Payload.uuid attempt.checkoutId),
      ("authoritative_status", Payload.text conflict.authoritative.value),
      ("observed_outcome", Payload.text conflict.observed.value),
      ("failure_code", Payload.optionalText attempt.failureCode),
      ("provider_reference", Payload.optionalText attempt.providerReference)]

/-- The rows one outcome touches. -/
structure LockedOutcome where
  attempt : PaymentAttempt
  checkout : CheckoutSession
  reservation : InventoryReservation

/-- `_lock_outcome`. -/
def lockOutcome (attemptId : Uuid) (withStock : Bool) : Session LockedOutcome := do
  let attempt ← findAttempt attemptId
  let database ← get
  let checkout ←
    Transaction.require (findCheckout database attempt.checkoutId attempt.merchantId)
      (.notFound "checkout" (toString attempt.checkoutId))
  (if withStock then lockVariantsFor checkout else pure PUnit.unit)
  let reservation ←
    Transaction.require (database.reservations.get? attempt.reservationId)
      (.notFound "inventory_reservation" (toString attempt.reservationId))
  pure { attempt := attempt, checkout := checkout, reservation := reservation }

/-- `_record_conflict`: record that two definitive answers disagreed, and change
nothing else. -/
def recordConflict (attempt : PaymentAttempt) (observed : ProviderOutcome) :
    Session PaymentOutcome := do
  let conflict : OutcomeConflict := { authoritative := attempt.status, observed := observed }
  appendAudit (conflictEvent attempt conflict)
  pure { attempt := attempt, conflict := some conflict }

/-- The writes of a success: the attempt, the checkout, the hold, the stock and the
trail. -/
def settleSuccess (locked : LockedOutcome) (reference : String) (source : OutcomeSource)
    (transactionTime : Instant) : Session PaymentOutcome := do
  let settled := succeededRow locked.attempt reference source transactionTime
  markSucceeded locked.attempt reference source transactionTime
  let _ ← markPaid locked.checkout transactionTime
  let _ ← consume locked.reservation transactionTime
  appendAudit (paymentEvent settled .paymentSucceeded (some reference) none)
  pure { attempt := settled, changed := true }

/-- `_record_success`. -/
def recordSuccess (attemptId : Uuid) (result : ProviderResult) (source : OutcomeSource)
    (transactionTime : Instant) : Session PaymentOutcome := do
  let locked ← lockOutcome attemptId true
  match locked.attempt.status with
  | .succeeded => pure { attempt := locked.attempt }
  | .failed => recordConflict locked.attempt .succeeded
  | _ =>
      settleSuccess locked (textOr result.reference (fallbackReference locked.attempt)) source
        transactionTime

/-- The writes of a failure: the attempt, the hold and the trail. -/
def settleFailure (locked : LockedOutcome) (failureCode : String)
    (reference : Option String) (source : OutcomeSource) (releaseReason : ReleaseReason)
    (transactionTime : Instant) : Session PaymentOutcome := do
  let settled := failedRow locked.attempt failureCode reference source transactionTime
  markFailed locked.attempt failureCode reference source transactionTime
  let _ ← release locked.reservation releaseReason transactionTime
  appendAudit (paymentEvent settled .paymentFailed none (some failureCode))
  pure { attempt := settled, changed := true }

/-- `_record_failure`. -/
def recordFailure (attemptId : Uuid) (result : ProviderResult) (source : OutcomeSource)
    (releaseReason : ReleaseReason) (transactionTime : Instant) :
    Session PaymentOutcome := do
  let locked ← lockOutcome attemptId false
  match locked.attempt.status with
  | .failed => pure { attempt := locked.attempt }
  | .succeeded => recordConflict locked.attempt .failed
  | _ =>
      settleFailure locked (textOr result.failureCode unspecifiedDecline) result.reference
        source releaseReason transactionTime

/-- `_record_unknown`. -/
def recordUnknown (attemptId : Uuid) (source : OutcomeSource) :
    Session PaymentOutcome := do
  let attempt ← findAttempt attemptId
  if attempt.status = .inFlight then do
    markUnknown attempt source
    appendAudit (paymentEvent (unknownRow attempt source) .paymentUnknown none none)
    pure { attempt := unknownRow attempt source, changed := true }
  else
    -- An ambiguous observation does not contradict a definitive one.
    pure { attempt := attempt }

/-- `_record`: persist one provider answer. -/
def record (attemptId : Uuid) (result : ProviderResult) (source : OutcomeSource)
    (releaseReason : ReleaseReason) (transactionTime : Instant) : Session PaymentOutcome :=
  match result.outcome with
  | .succeeded => recordSuccess attemptId result source transactionTime
  | .failed => recordFailure attemptId result source releaseReason transactionTime
  | .unknown => recordUnknown attemptId source

/-- `_require_mutation_authority`. -/
def requireMutationAuthority (attemptId : Uuid)
    (capability : Option BenchmarkRunCapability) : Session PUnit := do
  let attempt ← findAttempt attemptId
  requireAllowed attempt.merchantId capability

/-- A refusal that names a payment attempt. -/
def attemptConflict (attempt : PaymentAttempt) (reason detail : String) : Failure :=
  .conflict reason s!"payment attempt {attempt.id} {detail}" (some paymentResource)
    (some (toString attempt.id))

/-- `_not_dispatchable`. -/
def notDispatchable (attempt : PaymentAttempt) : Failure :=
  match attempt.status with
  | .succeeded =>
      attemptConflict attempt "payment_already_succeeded" "has already succeeded"
  | .failed =>
      attemptConflict attempt "payment_already_failed" "has already been declined"
  | .unknown =>
      attemptConflict attempt "payment_unresolved"
        "has an unresolved result and must be reconciled"
  | _ =>
      attemptConflict attempt "payment_in_progress" "has already been dispatched"

/-- The transaction `dispatch` commits before the provider is called:
`_require_mutation_authority`, then `_dispatchable`. -/
def beginDispatch (attemptId : Uuid) (capability : Option BenchmarkRunCapability)
    (transactionTime : Instant) : Session PaymentAttempt := do
  requireMutationAuthority attemptId capability
  let attempt ← findAttempt attemptId
  Transaction.refuseWhen (attempt.status ≠ .admitted) (notDispatchable attempt)
  markInFlight attempt transactionTime
  pure (dispatchedRow attempt transactionTime)

/-- The transaction `dispatch` commits after the provider has answered. -/
def recordExecution (attemptId : Uuid) (result : ProviderResult)
    (transactionTime : Instant) : Session PaymentOutcome := do
  let recorded ← record attemptId result .execution .paymentDeclined transactionTime
  pure { recorded with providerCalled := true, providerRecord := none }

/-- `_not_reconcilable`. -/
def notReconcilable (attempt : PaymentAttempt) : Failure :=
  attemptConflict attempt "payment_not_dispatched"
    "has never been dispatched and has nothing to reconcile"

/-- What the first transaction of a reconciliation decides: there is nothing to
learn, or there is a question to ask. -/
inductive ReconcileStart
  | settled (outcome : PaymentOutcome)
  | ask (question : PaymentQuery)

/-- The transaction `reconcile` closes before the provider is asked. -/
def beginReconcile [OperationDigest] (attemptId : Uuid)
    (capability : Option BenchmarkRunCapability) : Session ReconcileStart := do
  let attempt ← findAttempt attemptId
  requireAllowed attempt.merchantId capability
  if attempt.status.isTerminal then pure (.settled { attempt := attempt })
  else do
    Transaction.refuseWhen (attempt.status = .admitted) (notReconcilable attempt)
    let asked ← enforce (question attempt)
    pure (.ask asked)

/-- The transaction `reconcile` commits once the provider has answered. -/
def recordQuery (attemptId : Uuid) (found : ProviderQueryResult)
    (transactionTime : Instant) : Session PaymentOutcome := do
  let recorded ←
    record attemptId (fromQuery found).1 .reconciliation (fromQuery found).2 transactionTime
  pure { recorded with providerCalled := true, providerRecord := some found.record }

/-- `_append_reconciled`: record that somebody asked, in a transaction of its
own. -/
def appendReconciled (attemptId : Uuid) (found : ProviderQueryResult) :
    Session PUnit := do
  let attempt ← findAttempt attemptId
  appendAudit
    (outcomeEvent attempt .paymentReconciled
      [("checkout_id", Payload.uuid attempt.checkoutId),
        ("provider_outcome", Payload.text found.outcome.value),
        ("provider_record", Payload.text found.record.value),
        ("status", Payload.text attempt.status.value)])

/-- `record_external_dispatch`. -/
def recordExternalDispatch (attemptId : Uuid)
    (capability : Option BenchmarkRunCapability) (transactionTime : Instant) :
    Session PaymentAttempt := do
  let attempt ← findAttempt attemptId
  requireAllowed attempt.merchantId capability
  if attempt.status = .admitted then do
    markInFlight attempt transactionTime
    pure (dispatchedRow attempt transactionTime)
  else pure attempt

/-- `apply_provider_observation`. -/
def applyProviderObservation (attemptId : Uuid) (result : ProviderResult)
    (source : OutcomeSource) (capability : Option BenchmarkRunCapability)
    (transactionTime : Instant) : Session PaymentOutcome := do
  requireMutationAuthority attemptId capability
  let recorded ← record attemptId result source .paymentDeclined transactionTime
  pure { recorded with providerCalled := true, providerRecord := none }

/-- The types of the events that record how a payment ended, or a disagreement about
it. -/
def isOutcomeType : EventType → Bool
  | .paymentSucceeded => true
  | .paymentFailed => true
  | .paymentAbandoned => true
  | .paymentOutcomeConflict => true
  | _ => false

/-- The outcome events of the audit trail, in order. -/
def outcomeTrail (database : Database) : List AuditEvent :=
  database.auditEvents.filter fun event => isOutcomeType event.eventType

variable {database final : Database}

/-- Appending events of other types leaves the outcome trail alone. -/
theorem outcomeTrail_of_appends {types : List EventType} (appends : Appends types database final)
    (others : ∀ type ∈ types, isOutcomeType type = false) :
    outcomeTrail final = outcomeTrail database := by
  obtain ⟨events, listed, finalEq⟩ := appends
  have noOutcome : events.filter (fun event => isOutcomeType event.eventType) = [] := by
    rw [List.filter_eq_nil_iff]
    intro event member
    rw [others event.eventType (listed event member)]
    exact Bool.false_ne_true
  unfold outcomeTrail
  rw [finalEq, List.filter_append, noOutcome, List.append_nil]

/-- One further outcome event. -/
theorem outcomeTrail_append {event : AuditEvent}
    (appended : final.auditEvents = database.auditEvents ++ [event])
    (isOutcome : isOutcomeType event.eventType = true) :
    outcomeTrail final = outcomeTrail database ++ [event] := by
  simp [outcomeTrail, appended, isOutcome]

/-! ## What a committed recording did -/

variable {attemptId : Uuid}

theorem findAttempt_eq_ok_iff {attempt : PaymentAttempt} :
    findAttempt attemptId database = .ok (attempt, final) ↔
      database.attempts.get? attemptId = some attempt ∧ final = database := by
  simp only [findAttempt, bind_eq_ok_iff, get_eq_ok_iff,
    require_eq_ok_iff]
  constructor
  · rintro ⟨_, _, ⟨rfl, rfl⟩, found, rfl⟩
    exact ⟨found, rfl⟩
  · rintro ⟨found, rfl⟩
    exact ⟨_, _, ⟨rfl, rfl⟩, found, rfl⟩

/-- The rows an outcome decides on are the ones the attempt names. -/
structure Locks (database : Database) (attemptId : Uuid) (locked : LockedOutcome) :
    Prop where
  attempt : database.attempts.get? attemptId = some locked.attempt
  checkout : findCheckout database locked.attempt.checkoutId locked.attempt.merchantId =
    some locked.checkout
  reservation : database.reservations.get? locked.attempt.reservationId =
    some locked.reservation

namespace Locks

variable {database : Database} {attemptId : Uuid} {locked : LockedOutcome}

theorem attemptMem (locks : Locks database attemptId locked) :
    locked.attempt ∈ database.attempts :=
  (Table.get?_eq_some_iff.mp locks.attempt).1

theorem checkoutMem (locks : Locks database attemptId locked) :
    locked.checkout ∈ database.checkouts :=
  (findCheckout_eq_some_iff.mp locks.checkout).1

theorem reservationMem (locks : Locks database attemptId locked) :
    locked.reservation ∈ database.reservations :=
  (Table.get?_eq_some_iff.mp locks.reservation).1

end Locks

variable {locked : LockedOutcome}

theorem lockOutcome_eq_ok_iff {withStock : Bool} :
    lockOutcome attemptId withStock database = .ok (locked, final) ↔
      Locks database attemptId locked ∧
        (withStock = true → locked.checkout.lines ≠ []) ∧ final = database := by
  have stocked : ∀ {checkout : CheckoutSession} {before after : Database} {result : PUnit},
      (if withStock = true then lockVariantsFor checkout else pure PUnit.unit : Session PUnit)
          before = .ok (result, after) ↔
        (withStock = true → checkout.lines ≠ []) ∧ after = before := by
    intro checkout before after result
    cases withStock <;>
      simp [lockVariantsFor, refuseWhen_eq_ok_iff, pure_eq_ok_iff]
  simp only [lockOutcome, bind_eq_ok_iff, findAttempt_eq_ok_iff, stocked,
    get_eq_ok_iff, require_eq_ok_iff, pure_eq_ok_iff]
  constructor
  · rintro ⟨attempt, _, ⟨found, rfl⟩, _, database, ⟨rfl, rfl⟩, checkout, _, ⟨checkoutEq, rfl⟩,
      _, _, ⟨hasLines, rfl⟩, reservation, _, ⟨reservationEq, rfl⟩, rfl, rfl⟩
    exact ⟨⟨found, checkoutEq, reservationEq⟩, hasLines, rfl⟩
  · rintro ⟨⟨found, checkoutEq, reservationEq⟩, hasLines, rfl⟩
    exact ⟨_, _, ⟨found, rfl⟩, _, _, ⟨rfl, rfl⟩, _, _, ⟨checkoutEq, rfl⟩, PUnit.unit, _,
      ⟨hasLines, rfl⟩, _, _, ⟨reservationEq, rfl⟩, rfl, rfl⟩

variable {outcome : PaymentOutcome}

theorem recordConflict_eq_ok_iff {attempt : PaymentAttempt} {observed : ProviderOutcome} :
    recordConflict attempt observed database = .ok (outcome, final) ↔
      outcome =
          { attempt := attempt
            conflict := some { authoritative := attempt.status, observed := observed } } ∧
        final =
          { database with
            auditEvents :=
              database.auditEvents ++
                [conflictEvent attempt
                  { authoritative := attempt.status, observed := observed }] } := by
  simp only [recordConflict, bind_eq_ok_iff, appendAudit_eq_ok_iff,
    pure_eq_ok_iff]
  constructor
  · rintro ⟨_, _, rfl, rfl, rfl⟩
    exact ⟨rfl, rfl⟩
  · rintro ⟨rfl, rfl⟩
    exact ⟨PUnit.unit, _, rfl, rfl, rfl⟩

/-- Everything a recorded success did, in one transaction. -/
structure SettlesSuccess (database final : Database) (locked : LockedOutcome)
    (row : PaymentAttempt) (event : AuditEvent) : Prop where
  dispatched : locked.attempt.status.isDispatched = true
  notCancelled : locked.checkout.status ≠ .cancelled
  rows : ∃ paidAt consumedAt variants,
    final =
        { database with
          attempts := database.attempts.set row
          checkouts :=
            database.checkouts.set { locked.checkout with status := .paid, paidAt := paidAt }
          reservations :=
            database.reservations.set
              { locked.reservation with status := .consumed, consumedAt := consumedAt }
          variants := variants
          auditEvents := final.auditEvents } ∧
      (locked.reservation.status = .consumed ∧ variants = database.variants ∨
        locked.reservation.status = .committed ∧
          variants =
            (consumeStock locked.reservation.merchantId database.variants
              locked.reservation.lines).1)
  trail : outcomeTrail final = outcomeTrail database ++ [event]

/-- Everything a recorded failure did, in one transaction. -/
structure SettlesFailure (database final : Database) (attempt : PaymentAttempt)
    (reservation : InventoryReservation) (row : PaymentAttempt) (event : AuditEvent) :
    Prop where
  dispatched : attempt.status.isDispatched = true
  notConsumed : reservation.status ≠ .consumed
  rows : ∃ releasedAt,
    final =
      { database with
        attempts := database.attempts.set row
        reservations :=
          database.reservations.set
            { reservation with status := .released, releasedAt := releasedAt }
        auditEvents := final.auditEvents }
  trail : outcomeTrail final = outcomeTrail database ++ [event]

variable {source : OutcomeSource} {transactionTime : Instant}

theorem settleSuccess_eq_ok {reference : String} (locks : Locks database attemptId locked)
    (committed : settleSuccess locked reference source transactionTime database =
      .ok (outcome, final)) :
    outcome =
        { attempt := succeededRow locked.attempt reference source transactionTime
          changed := true } ∧
      SettlesSuccess database final locked
        (succeededRow locked.attempt reference source transactionTime)
        (paymentEvent (succeededRow locked.attempt reference source transactionTime)
          .paymentSucceeded (some reference) none) := by
  simp only [settleSuccess, bind_eq_ok_iff, appendAudit_eq_ok_iff,
    pure_eq_ok_iff] at committed
  obtain ⟨_, marked, markedEq, _, paid, paidEq, _, sold, soldEq, _, _, rfl, rfl, rfl⟩ :=
    committed
  obtain ⟨dispatched, rfl⟩ := markSucceeded_eq_ok markedEq
  obtain ⟨notCancelled, paidAt, rfl⟩ := markPaid_eq_ok (by exact locks.checkoutMem) paidEq
  obtain ⟨stockEvents, consumedAt, variants, soldRows, stock⟩ :=
    consume_eq_ok (by exact locks.reservationMem) soldEq
  refine ⟨rfl, dispatched, notCancelled, ⟨paidAt, consumedAt, variants, ?_, stock⟩, ?_⟩
  · rw [soldRows]
  · rw [outcomeTrail_append rfl rfl]
    apply congrArg (· ++ _)
    exact outcomeTrail_of_appends stockEvents (by decide)

/-- A recorded success carries a reference that its column holds. -/
theorem settleSuccess_storable {reference : String}
    (committed : settleSuccess locked reference source transactionTime database =
      .ok (outcome, final)) : isStorableReference reference = true := by
  simp only [settleSuccess, markSucceeded, bind_eq_ok_iff,
    updateAttempt_eq_ok_iff] at committed
  obtain ⟨_, _, ⟨_, _, _, fits, _⟩, _⟩ := committed
  by_contra unfit
  rw [Bool.not_eq_true] at unfit
  simp [attemptRowRefusal, succeededRow, unfit] at fits

variable {releaseReason : ReleaseReason}

theorem settleFailure_eq_ok {failureCode : String} {reference : Option String}
    (locks : Locks database attemptId locked)
    (committed : settleFailure locked failureCode reference source releaseReason
      transactionTime database = .ok (outcome, final)) :
    outcome =
        { attempt := failedRow locked.attempt failureCode reference source transactionTime
          changed := true } ∧
      SettlesFailure database final locked.attempt locked.reservation
        (failedRow locked.attempt failureCode reference source transactionTime)
        (paymentEvent (failedRow locked.attempt failureCode reference source transactionTime)
          .paymentFailed none (some failureCode)) := by
  simp only [settleFailure, bind_eq_ok_iff, appendAudit_eq_ok_iff,
    pure_eq_ok_iff] at committed
  obtain ⟨_, marked, markedEq, _, freed, freedEq, _, _, rfl, rfl, rfl⟩ := committed
  obtain ⟨dispatched, rfl⟩ := markFailed_eq_ok markedEq
  obtain ⟨notConsumed, stockEvents, releasedAt, freedRows⟩ :=
    release_eq_ok (by exact locks.reservationMem) freedEq
  refine ⟨rfl, dispatched, notConsumed, ⟨releasedAt, ?_⟩, ?_⟩
  · rw [freedRows]
  · rw [outcomeTrail_append rfl rfl]
    apply congrArg (· ++ _)
    exact outcomeTrail_of_appends stockEvents (by decide)

/-- What recording one provider answer can do: nothing, append a conflict, settle the
payment, or mark that nobody knows. -/
inductive Records (database : Database) (attemptId : Uuid) (result : ProviderResult)
    (source : OutcomeSource) (transactionTime : Instant) : PaymentOutcome → Database → Prop
  /-- The attempt stands already where the answer would put it, or the answer adds
  nothing. -/
  | nothing (attempt : PaymentAttempt)
      (found : database.attempts.get? attemptId = some attempt)
      (agrees : result.outcome = .unknown ∧ attempt.status ≠ .inFlight ∨
        result.outcome = .succeeded ∧ attempt.status = .succeeded ∨
        result.outcome = .failed ∧ attempt.status = .failed) :
      Records database attemptId result source transactionTime { attempt := attempt } database
  /-- The answer contradicts a settled payment. -/
  | conflict (attempt : PaymentAttempt)
      (found : database.attempts.get? attemptId = some attempt)
      (contradicts : result.outcome = .succeeded ∧ attempt.status = .failed ∨
        result.outcome = .failed ∧ attempt.status = .succeeded) :
      Records database attemptId result source transactionTime
        { attempt := attempt
          conflict := some { authoritative := attempt.status, observed := result.outcome } }
        { database with
          auditEvents :=
            database.auditEvents ++
              [conflictEvent attempt
                { authoritative := attempt.status, observed := result.outcome }] }
  /-- The money moved. -/
  | success (locked : LockedOutcome) (locks : Locks database attemptId locked)
      (isSuccess : result.outcome = .succeeded) (reference : String) (final : Database)
      (referenceEq : reference = textOr result.reference (fallbackReference locked.attempt))
      (settles : SettlesSuccess database final locked
        (succeededRow locked.attempt reference source transactionTime)
        (paymentEvent (succeededRow locked.attempt reference source transactionTime)
          .paymentSucceeded (some reference) none)) :
      Records database attemptId result source transactionTime
        { attempt := succeededRow locked.attempt reference source transactionTime
          changed := true }
        final
  /-- No money moved. -/
  | failure (locked : LockedOutcome) (locks : Locks database attemptId locked)
      (isFailure : result.outcome = .failed) (failureCode : String) (final : Database)
      (settles : SettlesFailure database final locked.attempt locked.reservation
        (failedRow locked.attempt failureCode result.reference source transactionTime)
        (paymentEvent
          (failedRow locked.attempt failureCode result.reference source transactionTime)
          .paymentFailed none (some failureCode))) :
      Records database attemptId result source transactionTime
        { attempt :=
            failedRow locked.attempt failureCode result.reference source transactionTime
          changed := true }
        final
  /-- Nobody knows. -/
  | clouded (attempt : PaymentAttempt)
      (found : database.attempts.get? attemptId = some attempt)
      (isUnknown : result.outcome = .unknown) (inFlight : attempt.status = .inFlight) :
      Records database attemptId result source transactionTime
        { attempt := unknownRow attempt source, changed := true }
        { database with
          attempts := database.attempts.set (unknownRow attempt source)
          auditEvents :=
            database.auditEvents ++
              [paymentEvent (unknownRow attempt source) .paymentUnknown none none] }

variable {result : ProviderResult}

/-- Recording an answer reports the attempt it was recorded for. -/
theorem Records.attempt_id
    (records : Records database attemptId result source transactionTime outcome final) :
    outcome.attempt.id = attemptId := by
  cases records with
  | nothing attempt found | conflict attempt found | clouded attempt found =>
      exact (Table.get?_eq_some_iff.mp found).2
  | success locked locks | failure locked locks =>
      exact (Table.get?_eq_some_iff.mp locks.attempt).2

theorem recordSuccess_eq_ok (isSuccess : result.outcome = .succeeded)
    (committed : recordSuccess attemptId result source transactionTime database =
      .ok (outcome, final)) :
    Records database attemptId result source transactionTime outcome final := by
  simp only [recordSuccess, bind_eq_ok_iff, lockOutcome_eq_ok_iff] at committed
  obtain ⟨locked, _, ⟨locks, _, rfl⟩, committed⟩ := committed
  cases status : locked.attempt.status with
  | succeeded =>
      simp only [status, pure_eq_ok_iff] at committed
      obtain ⟨rfl, rfl⟩ := committed
      exact .nothing _ locks.attempt (Or.inr (Or.inl ⟨isSuccess, status⟩))
  | failed =>
      simp only [status, recordConflict_eq_ok_iff] at committed
      obtain ⟨rfl, rfl⟩ := committed
      have recorded : Records _ attemptId result source transactionTime _ _ :=
        .conflict _ locks.attempt (Or.inl ⟨isSuccess, status⟩)
      rw [isSuccess, status] at recorded
      exact recorded
  | admitted | inFlight | unknown =>
      simp only [status] at committed
      obtain ⟨rfl, settles⟩ := settleSuccess_eq_ok locks committed
      exact .success locked locks isSuccess _ _ rfl settles

/-- A success of a dispatched attempt is recorded when the rows it names can move and
the table accepts the settled row. -/
theorem recordSuccess_of_accepted (locks : Locks database attemptId locked)
    (hasLines : locked.checkout.lines ≠ [])
    (isDispatched : locked.attempt.status.isDispatched = true)
    (notCancelled : locked.checkout.status ≠ .cancelled)
    (isCommitted : locked.reservation.status = .committed)
    (fits : attemptRowRefusal
      (succeededRow locked.attempt
        (textOr result.reference (fallbackReference locked.attempt)) source transactionTime) =
          none)
    (unique : attemptIndexRefusal
      (succeededRow locked.attempt
        (textOr result.reference (fallbackReference locked.attempt)) source transactionTime)
      database = none) :
    ∃ outcome final,
      recordSuccess attemptId result source transactionTime database = .ok (outcome, final) := by
  have begun : lockOutcome attemptId true database = .ok (locked, database) :=
    lockOutcome_eq_ok_iff.mpr ⟨locks, fun _ => hasLines, rfl⟩
  have settled : ∃ outcome final,
      settleSuccess locked (textOr result.reference (fallbackReference locked.attempt)) source
        transactionTime database = .ok (outcome, final) := by
    refine Transaction.Total.after ?_ (markSucceeded_of_accepted isDispatched fits unique)
    apply Transaction.Total.bind (markPaid_total notCancelled transactionTime)
    intro _
    apply Transaction.Total.bind (consume_total isCommitted transactionTime)
    intro _
    apply Transaction.Total.bind (Transaction.Total.modify _)
    intro _
    exact Transaction.Total.pure _
  obtain ⟨outcome, final, settledEq⟩ := settled
  refine ⟨outcome, final, bind_eq_ok_iff.mpr ⟨locked, database, begun, ?_⟩⟩
  cases status : locked.attempt.status with
  | inFlight | unknown => exact settledEq
  | admitted | succeeded | failed =>
      rw [status] at isDispatched
      cases isDispatched

theorem recordFailure_eq_ok (isFailure : result.outcome = .failed)
    (committed : recordFailure attemptId result source releaseReason transactionTime database =
      .ok (outcome, final)) :
    Records database attemptId result source transactionTime outcome final := by
  simp only [recordFailure, bind_eq_ok_iff, lockOutcome_eq_ok_iff] at committed
  obtain ⟨locked, _, ⟨locks, _, rfl⟩, committed⟩ := committed
  cases status : locked.attempt.status with
  | failed =>
      simp only [status, pure_eq_ok_iff] at committed
      obtain ⟨rfl, rfl⟩ := committed
      exact .nothing _ locks.attempt (Or.inr (Or.inr ⟨isFailure, status⟩))
  | succeeded =>
      simp only [status, recordConflict_eq_ok_iff] at committed
      obtain ⟨rfl, rfl⟩ := committed
      have recorded : Records _ attemptId result source transactionTime _ _ :=
        .conflict _ locks.attempt (Or.inr ⟨isFailure, status⟩)
      rw [isFailure, status] at recorded
      exact recorded
  | admitted | inFlight | unknown =>
      simp only [status] at committed
      obtain ⟨rfl, settles⟩ := settleFailure_eq_ok locks committed
      exact .failure locked locks isFailure _ _ settles

theorem recordUnknown_eq_ok (isUnknown : result.outcome = .unknown)
    (committed : recordUnknown attemptId source database = .ok (outcome, final)) :
    Records database attemptId result source transactionTime outcome final := by
  simp only [recordUnknown, bind_eq_ok_iff, findAttempt_eq_ok_iff] at committed
  obtain ⟨attempt, _, ⟨found, rfl⟩, committed⟩ := committed
  split at committed
  · next inFlight =>
      simp only [bind_eq_ok_iff, appendAudit_eq_ok_iff,
        pure_eq_ok_iff] at committed
      obtain ⟨_, _, marked, _, _, rfl, rfl, rfl⟩ := committed
      obtain ⟨_, rfl⟩ := markUnknown_eq_ok marked
      exact .clouded attempt found isUnknown inFlight
  · next notInFlight =>
      obtain ⟨rfl, rfl⟩ := pure_eq_ok_iff.mp committed
      exact .nothing attempt found (Or.inl ⟨isUnknown, notInFlight⟩)

/-- A committed recording is one of the things recording can do. -/
theorem record_eq_ok
    (committed : record attemptId result source releaseReason transactionTime database =
      .ok (outcome, final)) :
    Records database attemptId result source transactionTime outcome final := by
  unfold record at committed
  cases answer : result.outcome with
  | succeeded =>
      rw [answer] at committed
      exact recordSuccess_eq_ok answer committed
  | failed =>
      rw [answer] at committed
      exact recordFailure_eq_ok answer committed
  | unknown =>
      rw [answer] at committed
      exact recordUnknown_eq_ok answer committed

theorem recordExecution_eq_ok
    (committed : recordExecution attemptId result transactionTime database = .ok (outcome, final)) :
    ∃ recorded, outcome = { recorded with providerCalled := true, providerRecord := none } ∧
      Records database attemptId result .execution transactionTime recorded final := by
  simp only [recordExecution, bind_eq_ok_iff,
    pure_eq_ok_iff] at committed
  obtain ⟨recorded, _, recordedEq, rfl, rfl⟩ := committed
  exact ⟨recorded, rfl, record_eq_ok recordedEq⟩

theorem recordQuery_eq_ok {found : ProviderQueryResult}
    (committed : recordQuery attemptId found transactionTime database = .ok (outcome, final)) :
    ∃ recorded,
      outcome =
          { recorded with providerCalled := true, providerRecord := some found.record } ∧
      Records database attemptId (fromQuery found).1 .reconciliation transactionTime recorded
        final := by
  simp only [recordQuery, bind_eq_ok_iff, pure_eq_ok_iff] at committed
  obtain ⟨recorded, _, recordedEq, rfl, rfl⟩ := committed
  exact ⟨recorded, rfl, record_eq_ok recordedEq⟩

/-! ## What the other committed transactions did -/

variable {capability : Option BenchmarkRunCapability}

theorem requireMutationAuthority_eq_ok {result : PUnit}
    (committed : requireMutationAuthority attemptId capability database = .ok (result, final)) :
    final = database := by
  simp only [requireMutationAuthority, bind_eq_ok_iff, findAttempt_eq_ok_iff,
    requireAllowed_eq_ok_iff] at committed
  obtain ⟨_, _, ⟨_, rfl⟩, _, rfl⟩ := committed
  rfl

/-- A committed dispatch found an admitted attempt and marked it. -/
theorem beginDispatch_eq_ok {result : PaymentAttempt}
    (committed : beginDispatch attemptId capability transactionTime database =
      .ok (result, final)) :
    ∃ attempt, database.attempts.get? attemptId = some attempt ∧ attempt.status = .admitted ∧
      result = dispatchedRow attempt transactionTime ∧
      final =
        { database with attempts := database.attempts.set (dispatchedRow attempt transactionTime) } := by
  simp only [beginDispatch, bind_eq_ok_iff, findAttempt_eq_ok_iff,
    refuseWhen_eq_ok_iff, pure_eq_ok_iff] at committed
  obtain ⟨_, _, authority, attempt, _, ⟨found, rfl⟩, _, _, ⟨_, rfl⟩, _, _, marked, rfl, rfl⟩ :=
    committed
  obtain rfl := requireMutationAuthority_eq_ok authority
  obtain ⟨admitted, rfl⟩ := markInFlight_eq_ok marked
  exact ⟨attempt, found, admitted, rfl, rfl⟩

/-- Starting a reconciliation writes nothing, asks about a dispatched attempt only,
and otherwise answers with a settled one. -/
theorem beginReconcile_eq_ok [OperationDigest] {start : ReconcileStart}
    (committed : beginReconcile attemptId capability database = .ok (start, final)) :
    final = database ∧
      ∃ attempt, database.attempts.get? attemptId = some attempt ∧
        ((attempt.status.isTerminal = true ∧ start = .settled { attempt := attempt }) ∨
          ∃ asked, attempt.status.isDispatched = true ∧ start = .ask asked) := by
  simp only [beginReconcile, bind_eq_ok_iff, findAttempt_eq_ok_iff,
    requireAllowed_eq_ok_iff] at committed
  obtain ⟨attempt, _, ⟨found, rfl⟩, _, _, ⟨_, rfl⟩, committed⟩ := committed
  split at committed
  · next terminal =>
      obtain ⟨rfl, rfl⟩ := pure_eq_ok_iff.mp committed
      exact ⟨rfl, attempt, found, Or.inl ⟨terminal, rfl⟩⟩
  · next unsettled =>
      simp only [bind_eq_ok_iff, refuseWhen_eq_ok_iff,
        enforce_eq_ok_iff, pure_eq_ok_iff] at committed
      obtain ⟨_, _, ⟨notAdmitted, rfl⟩, asked, _, ⟨_, rfl⟩, rfl, rfl⟩ := committed
      refine ⟨rfl, attempt, found, Or.inr ⟨asked, ?_, rfl⟩⟩
      cases status : attempt.status with
      | admitted => exact absurd status notAdmitted
      | inFlight => rfl
      | unknown => rfl
      | succeeded => simp [status, PaymentAttemptStatus.isTerminal] at unsettled
      | failed => simp [status, PaymentAttemptStatus.isTerminal] at unsettled

theorem appendReconciled_eq_ok {found : ProviderQueryResult} {result : PUnit}
    (committed : appendReconciled attemptId found database = .ok (result, final)) :
    final = { database with auditEvents := final.auditEvents } ∧
      Appends [.paymentReconciled] database final := by
  simp only [appendReconciled, bind_eq_ok_iff, findAttempt_eq_ok_iff,
    appendAudit_eq_ok_iff] at committed
  obtain ⟨attempt, _, ⟨_, rfl⟩, rfl⟩ := committed
  exact ⟨rfl, Appends.event (List.mem_singleton_self _) rfl⟩

/-- Recording an external dispatch marks an admitted attempt, and tolerates every
other. -/
theorem recordExternalDispatch_eq_ok {result : PaymentAttempt}
    (committed : recordExternalDispatch attemptId capability transactionTime database =
      .ok (result, final)) :
    ∃ attempt, database.attempts.get? attemptId = some attempt ∧
      ((attempt.status ≠ .admitted ∧ result = attempt ∧ final = database) ∨
        attempt.status = .admitted ∧ result = dispatchedRow attempt transactionTime ∧
          final =
            { database with
              attempts := database.attempts.set (dispatchedRow attempt transactionTime) }) := by
  simp only [recordExternalDispatch, bind_eq_ok_iff, findAttempt_eq_ok_iff,
    requireAllowed_eq_ok_iff] at committed
  obtain ⟨attempt, _, ⟨found, rfl⟩, _, _, ⟨_, rfl⟩, committed⟩ := committed
  split at committed
  · next admitted =>
      simp only [bind_eq_ok_iff, pure_eq_ok_iff] at committed
      obtain ⟨_, _, marked, rfl, rfl⟩ := committed
      obtain ⟨_, rfl⟩ := markInFlight_eq_ok marked
      exact ⟨attempt, found, Or.inr ⟨admitted, rfl, rfl⟩⟩
  · next notAdmitted =>
      obtain ⟨rfl, rfl⟩ := pure_eq_ok_iff.mp committed
      exact ⟨_, found, Or.inl ⟨notAdmitted, rfl, rfl⟩⟩

theorem applyProviderObservation_eq_ok
    (committed : applyProviderObservation attemptId result source capability transactionTime
      database = .ok (outcome, final)) :
    ∃ recorded, outcome = { recorded with providerCalled := true, providerRecord := none } ∧
      Records database attemptId result source transactionTime recorded final := by
  simp only [applyProviderObservation, bind_eq_ok_iff,
    pure_eq_ok_iff] at committed
  obtain ⟨_, _, authority, recorded, _, recordedEq, rfl, rfl⟩ := committed
  obtain rfl := requireMutationAuthority_eq_ok authority
  exact ⟨recorded, rfl, record_eq_ok recordedEq⟩

end AgentRank.Payments
