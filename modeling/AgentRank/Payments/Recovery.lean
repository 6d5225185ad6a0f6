import AgentRank.Payments.Execution

/-!
# Abandonment

This module models `payments/recovery.py`: ending an unresolved payment by a
decision rather than by evidence.  No provider is asked, only an unknown attempt is
eligible, and the event says that nobody confirmed anything.
-/

namespace AgentRank.Payments

open Constraints Inventory Relational Store Text Transaction

/-- Why an operator decided a payment would never be resolved. -/
inductive AbandonmentReason
  | providerCannotConfirm
  | providerUnreachable
  | operatorDecision
deriving DecidableEq

def AbandonmentReason.value : AbandonmentReason → String
  | providerCannotConfirm => "provider_cannot_confirm"
  | providerUnreachable => "provider_unreachable"
  | operatorDecision => "operator_decision"

/-- The failure code of an abandoned attempt. -/
def operatorAbandoned : String := "OPERATOR_ABANDONED"

def maxOperatorNoteLength : Nat := 200

/-- `str.isprintable()`, by code point. -/
class PrintableText where
  isPrintable : Char → Bool

/-- `validate_operator_note`. -/
def validateOperatorNote [PrintableText] (note : String) : Except ValueError String :=
  let trimmed := strip note
  if trimmed.isEmpty then .error { message := "an operator note cannot be blank" }
  else if maxOperatorNoteLength < trimmed.length then
    .error
      { message :=
          s!"an operator note is at most {maxOperatorNoteLength} characters, got {trimmed.length}" }
  else if !trimmed.toList.all PrintableText.isPrintable then
    .error
      { message := "an operator note must be a single line of printable characters" }
  else .ok trimmed

/-- The note that is recorded, when there is one. -/
def recordedNote [PrintableText] : Option String → Except ValueError (Option String)
  | none => .ok none
  | some note => (validateOperatorNote note).map some

/-- `_already_abandoned`. -/
def alreadyAbandoned (attempt : PaymentAttempt) : Bool :=
  attempt.status == .failed && attempt.failureCode == some operatorAbandoned

/-- `_abandoned_payload`. -/
def abandonedPayload (attempt : PaymentAttempt) (reason : AbandonmentReason)
    (note : Option String) : List (String × Json) :=
  [("checkout_id", Payload.uuid attempt.checkoutId),
    ("mandate_id", Payload.uuid attempt.mandateId),
    ("reservation_id", Payload.uuid attempt.reservationId),
    ("amount_minor", Payload.number attempt.amountMinor),
    ("currency", Payload.text attempt.currency),
    ("status", Payload.text attempt.status.value),
    ("failure_code", Payload.optionalText attempt.failureCode),
    ("reason", Payload.text reason.value),
    ("operator_note", Payload.optionalText note),
    ("provider_confirmed", .scalar (.boolean false)),
    ("residual_risk",
      Payload.text "the provider may later reveal that this payment succeeded")]

/-- `_not_abandonable`. -/
def notAbandonable (attempt : PaymentAttempt) : Failure :=
  match attempt.status with
  | .admitted =>
      attemptConflict attempt "payment_not_dispatched"
        "has never been dispatched and has nothing to abandon"
  | .inFlight =>
      attemptConflict attempt "payment_not_reconciled"
        "has never been queried and must be reconciled before it can be abandoned"
  | .succeeded =>
      attemptConflict attempt "payment_already_succeeded" "has already succeeded"
  | _ =>
      attemptConflict attempt "payment_already_failed" "has already been resolved as failed"

/-- The row an abandonment writes. -/
def abandonedRow (attempt : PaymentAttempt) (transactionTime : Instant) : PaymentAttempt :=
  failedRow attempt operatorAbandoned none .operator transactionTime

/-- The event an abandonment appends. -/
def abandonedEvent (attempt : PaymentAttempt) (reason : AbandonmentReason)
    (note : Option String) : AuditEvent where
  merchantId := attempt.merchantId
  actorType := .system
  credentialId := none
  eventType := .paymentAbandoned
  resourceType := paymentResource
  resourceId := attempt.id
  payload := abandonedPayload attempt reason note

/-- The writes of an abandonment: the attempt, the hold and the trail. -/
def settleAbandonment (attempt : PaymentAttempt) (reservation : InventoryReservation)
    (reason : AbandonmentReason) (note : Option String) (transactionTime : Instant) :
    Session PaymentOutcome := do
  let settled := abandonedRow attempt transactionTime
  markFailed attempt operatorAbandoned none .operator transactionTime
  let _ ← release reservation .paymentAbandoned transactionTime
  appendAudit (abandonedEvent settled reason note)
  pure { attempt := settled, changed := true }

/-- `PaymentRecoveryService.abandon_payment_attempt`. -/
def abandonPaymentAttempt [PrintableText] (attemptId : Uuid) (reason : AbandonmentReason)
    (note : Option String) (capability : Option BenchmarkRunCapability)
    (transactionTime : Instant) : Session PaymentOutcome := do
  let recorded ← enforce (recordedNote note)
  let attempt ← findAttempt attemptId
  requireAllowed attempt.merchantId capability
  let database ← get
  let reservation ←
    Transaction.require (database.reservations.get? attempt.reservationId)
      (.notFound "inventory_reservation" (toString attempt.reservationId))
  if alreadyAbandoned attempt then pure { attempt := attempt }
  else do
    Transaction.refuseWhen (attempt.status ≠ .unknown) (notAbandonable attempt)
    settleAbandonment attempt reservation reason recorded transactionTime

/-- A committed abandonment repeated itself, or failed an unknown attempt and gave its
hold back. -/
theorem abandonPaymentAttempt_eq_ok [PrintableText] {attemptId : Uuid}
    {reason : AbandonmentReason} {note : Option String}
    {capability : Option BenchmarkRunCapability} {transactionTime : Instant}
    {database final : Database} {outcome : PaymentOutcome}
    (committed : abandonPaymentAttempt attemptId reason note capability transactionTime
      database = .ok (outcome, final)) :
    ∃ attempt, database.attempts.get? attemptId = some attempt ∧
      ((attempt.status = .failed ∧ outcome = { attempt := attempt } ∧ final = database) ∨
        ∃ reservation recorded,
          database.reservations.get? attempt.reservationId = some reservation ∧
          attempt.status = .unknown ∧
          outcome = { attempt := abandonedRow attempt transactionTime, changed := true } ∧
          SettlesFailure database final attempt reservation
            (abandonedRow attempt transactionTime)
            (abandonedEvent (abandonedRow attempt transactionTime) reason recorded)) := by
  simp only [abandonPaymentAttempt, bind_eq_ok_iff, enforce_eq_ok_iff,
    findAttempt_eq_ok_iff, requireAllowed_eq_ok_iff, get_eq_ok_iff,
    require_eq_ok_iff] at committed
  obtain ⟨recorded, _, ⟨_, rfl⟩, attempt, _, ⟨found, rfl⟩, _, _, ⟨_, rfl⟩, _, database,
    ⟨rfl, rfl⟩, reservation, _, ⟨reservationEq, rfl⟩, committed⟩ := committed
  refine ⟨attempt, found, ?_⟩
  split at committed
  · next already =>
      obtain ⟨rfl, rfl⟩ := pure_eq_ok_iff.mp committed
      simp only [alreadyAbandoned, Bool.and_eq_true, beq_iff_eq] at already
      exact Or.inl ⟨already.1, rfl, rfl⟩
  · simp only [settleAbandonment, bind_eq_ok_iff, appendAudit_eq_ok_iff,
      refuseWhen_eq_ok_iff, pure_eq_ok_iff] at committed
    obtain ⟨_, _, ⟨isUnknown, rfl⟩, _, _, marked, _, freed, freedEq, _, _, rfl, rfl, rfl⟩ :=
      committed
    obtain ⟨dispatched, rfl⟩ := markFailed_eq_ok marked
    obtain ⟨member, _⟩ := Table.get?_eq_some_iff.mp reservationEq
    obtain ⟨notConsumed, stockEvents, releasedAt, freedRows⟩ :=
      release_eq_ok (by exact member) freedEq
    refine Or.inr ⟨reservation, recorded, reservationEq, not_not.mp isUnknown, rfl,
      dispatched, notConsumed, ⟨releasedAt, ?_⟩, ?_⟩
    · rw [freedRows]
      rfl
    · rw [outcomeTrail_append rfl rfl]
      apply congrArg (· ++ _)
      exact outcomeTrail_of_appends stockEvents (by decide)

end AgentRank.Payments
