import AgentRank.Mandates.Service
import AgentRank.Payments.Ledger
import AgentRank.Transition.Run

/-!
# Every operation is a movement

The operations of the checkout, inventory, mandate and payment services, one
constructor for each transaction they commit.  Whatever an operation commits moves
the ledger in one of the ways a ledger can move; an operation that fails leaves it
untouched.

The tables that other services own may be rewritten between any two transactions.
-/

namespace AgentRank.Payments

open Checkout Constraints Inventory Mandates Relational Store Text Transaction

/-- One transaction of the modelled services, with the arguments of its call. -/
inductive Operation
  /-- Whatever the services of the other tables do. -/
  | outside (merchants : Table Merchant) (products : Table Product)
      (mandates : Table SpendingMandate) (constraintSets : Table IntentConstraintSet)
      (benchmarkRuns : Table BenchmarkRun)
  /-- A merchant edits the catalog, or a world is reset. -/
  | editCatalog (variants : Table Variant)
  | createCheckout (request : NewCheckout) (capability : Option BenchmarkRunCapability)
      (credentialId : Option Uuid) (checkoutId : Uuid) (lineId : Nat → Uuid)
  | prepareExecution (checkoutId merchantId : Uuid)
      (capability : Option BenchmarkRunCapability) (reservationId : Uuid)
  | releaseReservation (checkoutId merchantId : Uuid)
      (capability : Option BenchmarkRunCapability) (reason : ReleaseReason)
  | cancelCheckout (checkoutId merchantId : Uuid)
      (capability : Option BenchmarkRunCapability) (credentialId : Option Uuid)
  | revokeMandate (mandateId merchantId : Uuid)
      (capability : Option BenchmarkRunCapability) (credentialId : Option Uuid)
  | admitPayment (checkoutId merchantId : Uuid) (idempotencyKey : String)
      (capability : Option BenchmarkRunCapability) (credentialId : Option Uuid)
      (attemptId : Uuid)
  | beginDispatch (attemptId : Uuid) (capability : Option BenchmarkRunCapability)
  | recordExecution (attemptId : Uuid) (result : ProviderResult)
  | beginReconcile (attemptId : Uuid) (capability : Option BenchmarkRunCapability)
  | recordQuery (attemptId : Uuid) (found : ProviderQueryResult)
  | appendReconciled (attemptId : Uuid) (found : ProviderQueryResult)
  | recordExternalDispatch (attemptId : Uuid)
      (capability : Option BenchmarkRunCapability)
  | applyProviderObservation (attemptId : Uuid) (result : ProviderResult)
      (source : OutcomeSource) (capability : Option BenchmarkRunCapability)
  | abandonPaymentAttempt (attemptId : Uuid) (reason : AbandonmentReason)
      (note : Option String) (capability : Option BenchmarkRunCapability)

/-- Run a transaction for its effect. -/
def silently {α : Type} (transaction : Session α) : Session (Option PaymentOutcome) := do
  let _ ← transaction
  pure none

/-- Run a transaction that reports a payment outcome. -/
def reporting (transaction : Session PaymentOutcome) : Session (Option PaymentOutcome) := do
  let outcome ← transaction
  pure (some outcome)

variable {database final : Database} {answer : Option PaymentOutcome}

theorem silently_eq_ok {α : Type} {transaction : Session α}
    (committed : silently transaction database = .ok (answer, final)) :
    answer = none ∧ ∃ result, transaction database = .ok (result, final) := by
  simp only [silently, bind_eq_ok_iff, pure_eq_ok_iff] at committed
  obtain ⟨result, _, performed, rfl, rfl⟩ := committed
  exact ⟨rfl, result, performed⟩

theorem reporting_eq_ok {transaction : Session PaymentOutcome}
    (committed : reporting transaction database = .ok (answer, final)) :
    ∃ outcome, answer = some outcome ∧ transaction database = .ok (outcome, final) := by
  simp only [reporting, bind_eq_ok_iff, pure_eq_ok_iff] at committed
  obtain ⟨outcome, _, performed, rfl, rfl⟩ := committed
  exact ⟨outcome, rfl, performed⟩

/-! ## Recording an outcome moves the ledger -/

variable {attempt : PaymentAttempt} {attemptId : Uuid}

section Recording

variable {allowance : Allowance}

/-- When the outcome trail stood still, the ledger is the tables over that trail. -/
theorem ledgerOf_eq (trail : outcomeTrail final = outcomeTrail database) :
    ledgerOf final =
      { checkouts := final.checkouts
        variants := final.variants
        reservations := final.reservations
        attempts := final.attempts
        trail := outcomeTrail database } := by
  rw [← trail]
  rfl

theorem ledgerOf_eq_of_append {event : AuditEvent}
    (trail : outcomeTrail final = outcomeTrail database ++ [event]) :
    ledgerOf final =
      { checkouts := final.checkouts
        variants := final.variants
        reservations := final.reservations
        attempts := final.attempts
        trail := outcomeTrail database ++ [event] } := by
  rw [← trail]
  rfl

variable {source : OutcomeSource}

theorem SettlesSuccess.movement {locked : LockedOutcome} {reference : String} {clock : Readings}
    {event : AuditEvent} (locks : Locks database attemptId locked)
    (settles : SettlesSuccess database final locked
      (succeededRow locked.attempt reference source clock.transactionTime) event) :
    Movement allowance clock (ledgerOf database) (ledgerOf final) := by
  obtain ⟨paidAt, consumedAt, variants, finalEq, stock⟩ := settles.rows
  obtain ⟨_, checkoutId, _⟩ := findCheckout_eq_some_iff.mp locks.checkout
  obtain ⟨_, reservationId⟩ := Table.get?_eq_some_iff.mp locks.reservation
  rw [ledgerOf_eq_of_append settles.trail, finalEq]
  exact Movement.succeeded locked.attempt locked.checkout locked.reservation reference source
    paidAt consumedAt variants event locks.attemptMem settles.dispatched locks.checkoutMem
    checkoutId locks.reservationMem reservationId settles.notCancelled stock

theorem SettlesFailure.movement {reservation : InventoryReservation} {failureCode : String}
    {reference : Option String} {clock : Readings} {event : AuditEvent}
    (member : attempt ∈ database.attempts)
    (reservationEq : database.reservations.get? attempt.reservationId = some reservation)
    (settles : SettlesFailure database final attempt reservation
      (failedRow attempt failureCode reference source clock.transactionTime) event) :
    Movement allowance clock (ledgerOf database) (ledgerOf final) := by
  obtain ⟨releasedAt, finalEq⟩ := settles.rows
  obtain ⟨held, reservationId⟩ := Table.get?_eq_some_iff.mp reservationEq
  rw [ledgerOf_eq_of_append settles.trail, finalEq]
  exact Movement.failed attempt reservation failureCode reference source releasedAt event
    member settles.dispatched held reservationId settles.notConsumed

/-- Whatever recording an answer does is a movement. -/
theorem Records.movement {result : ProviderResult} {clock : Readings} {outcome : PaymentOutcome}
    (records : Records database attemptId result source clock.transactionTime outcome final) :
    Movement allowance clock (ledgerOf database) (ledgerOf final) := by
  cases records with
  | nothing attempt found agrees => exact Movement.untouched
  | conflict attempt found contradicts =>
      have trail :
          outcomeTrail
              { database with
                auditEvents :=
                  database.auditEvents ++
                    [conflictEvent attempt
                      { authoritative := attempt.status, observed := result.outcome }] } =
            outcomeTrail database ++ [_] :=
        outcomeTrail_append rfl rfl
      rw [ledgerOf_eq_of_append trail]
      exact Movement.disputed _
  | success locked locks isSuccess reference final referenceEq settles =>
      exact settles.movement locks
  | failure locked locks isFailure failureCode final settles =>
      exact settles.movement locks.attemptMem locks.reservation
  | clouded attempt found isUnknown inFlight =>
      have quiet :
          Appends [.paymentUnknown] database
            { database with
              attempts := database.attempts.set (unknownRow attempt source)
              auditEvents :=
                database.auditEvents ++
                  [paymentEvent (unknownRow attempt source) .paymentUnknown none none] } :=
        Appends.event (List.mem_singleton_self _) rfl
      rw [ledgerOf_eq (outcomeTrail_of_appends quiet (by decide))]
      exact Movement.clouded attempt source (Table.get?_eq_some_iff.mp found).1 inFlight

end Recording

section System

variable [CaseFolding] [OperationDigest] [PrintableText]

/-- The transaction of an operation, at the readings of its clocks. -/
def Operation.perform (clock : Readings) : Operation → Session (Option PaymentOutcome)
  | outside merchants products mandates constraintSets benchmarkRuns =>
      silently <| modify fun database =>
        { database with
          merchants := merchants
          products := products
          mandates := mandates
          constraintSets := constraintSets
          benchmarkRuns := benchmarkRuns }
  | editCatalog variants =>
      silently <| modify fun database => { database with variants := variants }
  | createCheckout request capability credentialId checkoutId lineId =>
      silently
        (Checkout.createCheckout request capability credentialId clock.evaluatedAt
          clock.transactionTime checkoutId lineId)
  | prepareExecution checkoutId merchantId capability reservationId =>
      silently
        (Checkout.prepareExecution checkoutId merchantId capability clock.evaluatedAt
          clock.admittedAt clock.transactionTime reservationId)
  | releaseReservation checkoutId merchantId capability reason =>
      silently
        (Checkout.releaseReservation checkoutId merchantId capability reason
          clock.transactionTime)
  | cancelCheckout checkoutId merchantId capability credentialId =>
      silently
        (Checkout.cancelCheckout checkoutId merchantId capability credentialId
          clock.transactionTime)
  | revokeMandate mandateId merchantId capability credentialId =>
      silently
        (Mandates.revokeMandate mandateId merchantId capability credentialId
          clock.transactionTime)
  | admitPayment checkoutId merchantId idempotencyKey capability credentialId attemptId =>
      silently
        (Payments.admitPayment checkoutId merchantId idempotencyKey capability credentialId
          clock.evaluatedAt clock.admittedAt attemptId)
  | beginDispatch attemptId capability =>
      silently (Payments.beginDispatch attemptId capability clock.transactionTime)
  | recordExecution attemptId result =>
      reporting (Payments.recordExecution attemptId result clock.transactionTime)
  | beginReconcile attemptId capability =>
      silently (Payments.beginReconcile attemptId capability)
  | recordQuery attemptId found =>
      reporting (Payments.recordQuery attemptId found clock.transactionTime)
  | appendReconciled attemptId found =>
      silently (Payments.appendReconciled attemptId found)
  | recordExternalDispatch attemptId capability =>
      silently (Payments.recordExternalDispatch attemptId capability clock.transactionTime)
  | applyProviderObservation attemptId result source capability =>
      reporting
        (Payments.applyProviderObservation attemptId result source capability
          clock.transactionTime)
  | abandonPaymentAttempt attemptId reason note capability =>
      reporting
        (Payments.abandonPaymentAttempt attemptId reason note capability
          clock.transactionTime)

/-- An operation stays within an allowance. -/
def Operation.Within (allowance : Allowance) (database : Database) :
    Operation → Prop
  | releaseReservation checkoutId _ _ _ =>
      ∀ reservation, holdingForCheckout database checkoutId = some reservation →
        allowance.releases reservation
  | editCatalog variants => allowance.restocks database.variants variants
  | _ => True

/-- One step of the system: the transaction of an operation, rolled back when it
fails. -/
def serve (call : Operation × Readings) (database : Database) : Database :=
  (call.1.perform call.2).settle database

/-! ## Every operation moves the ledger -/

variable {capability : Option BenchmarkRunCapability} {credentialId : Option Uuid}
  {checkoutId merchantId : Uuid}

section Movements

variable {allowance : Allowance} {clock : Readings}
  {database final : Database} {answer : Option PaymentOutcome}

omit [CaseFolding] [OperationDigest] [PrintableText]

/-- A call that rewrote only tables outside the ledger, and appended no outcome. -/
theorem movement_of_same {types : List EventType} (appends : Appends types database final)
    (others : ∀ type ∈ types, isOutcomeType type = false)
    (checkouts : final.checkouts = database.checkouts)
    (variants : final.variants = database.variants)
    (reservations : final.reservations = database.reservations)
    (attempts : final.attempts = database.attempts) :
    Movement allowance clock (ledgerOf database) (ledgerOf final) := by
  rw [ledgerOf_eq (outcomeTrail_of_appends appends others), checkouts, variants, reservations,
    attempts]
  exact Movement.untouched

variable {transactionTime : Instant}

theorem createCheckout_movement {request : NewCheckout} {now : Instant} {lineId : Nat → Uuid}
    {checkout : CheckoutSession}
    (committed : Checkout.createCheckout request capability credentialId now transactionTime
      checkoutId lineId database = .ok (checkout, final)) :
    Movement allowance clock (ledgerOf database) (ledgerOf final) := by
  obtain ⟨isOpen, isQuote, positive, checkouts, inserted, finalEq, appends⟩ :=
    createCheckout_eq_ok committed
  rw [ledgerOf_eq (outcomeTrail_of_appends appends (by decide)), finalEq]
  exact Movement.quoted checkout checkouts isOpen isQuote positive inserted

theorem cancelCheckout_movement {result : PUnit}
    (committed : Checkout.cancelCheckout checkoutId merchantId capability credentialId
      transactionTime database = .ok (result, final)) :
    Movement allowance clock (ledgerOf database) (ledgerOf final) := by
  obtain ⟨checkout, cancelledAt, reservations, checkoutEq, unpaid, noneOpen, givesBack,
    finalEq, appends⟩ := cancelCheckout_eq_ok committed
  rw [ledgerOf_eq (outcomeTrail_of_appends appends (by decide)), finalEq]
  refine Movement.withdrawn checkout cancelledAt reservations
    (findCheckout_eq_some_iff.mp checkoutEq).1 unpaid
    (openForCheckout_eq_none_iff.mp noneOpen) ?_
  rcases givesBack with ⟨none, rfl⟩ | ⟨reservation, releasedAt, held, rfl⟩
  · exact GivesBack.nothing (holdingForCheckout_eq_none_iff.mp none)
  · obtain ⟨member, names, holding⟩ := holdingForCheckout_eq_some held
    exact GivesBack.hold reservation releasedAt member names holding

theorem releaseReservation_movement {reason : ReleaseReason} {changed : Bool}
    (allowed : ∀ reservation,
      holdingForCheckout database checkoutId = some reservation → allowance.releases reservation)
    (committed : Checkout.releaseReservation checkoutId merchantId capability reason
      transactionTime database = .ok (changed, final)) :
    Movement allowance clock (ledgerOf database) (ledgerOf final) := by
  obtain ⟨appends, rfl | ⟨reservation, releasedAt, held, finalEq⟩⟩ :=
    releaseReservation_eq_ok committed
  · exact Movement.untouched
  · obtain ⟨member, _, holding⟩ := holdingForCheckout_eq_some held
    rw [ledgerOf_eq (outcomeTrail_of_appends appends (by decide)), finalEq]
    exact Movement.released reservation releasedAt member holding (allowed _ held)

theorem beginDispatch_movement
    (committed : Payments.beginDispatch attemptId capability clock.transactionTime database =
      .ok (attempt, final)) :
    Movement allowance clock (ledgerOf database) (ledgerOf final) := by
  obtain ⟨attempt, found, isAdmitted, _, rfl⟩ := beginDispatch_eq_ok committed
  exact Movement.dispatched attempt (Table.get?_eq_some_iff.mp found).1 isAdmitted

theorem recordExternalDispatch_movement
    (committed : Payments.recordExternalDispatch attemptId capability clock.transactionTime
      database = .ok (attempt, final)) :
    Movement allowance clock (ledgerOf database) (ledgerOf final) := by
  obtain ⟨attempt, found, ⟨_, _, rfl⟩ | ⟨isAdmitted, _, rfl⟩⟩ :=
    recordExternalDispatch_eq_ok committed
  · exact Movement.untouched
  · exact Movement.dispatched attempt (Table.get?_eq_some_iff.mp found).1 isAdmitted

end Movements

section Movements

variable {allowance : Allowance} {clock : Readings}
  {database final : Database}

omit [OperationDigest] [PrintableText]

theorem prepareExecution_movement {reservationId : Uuid} {readiness : CheckoutExecutionReadiness}
    (committed : Checkout.prepareExecution checkoutId merchantId capability
      clock.evaluatedAt clock.admittedAt clock.transactionTime reservationId database =
        .ok (readiness, final)) :
    Movement allowance clock (ledgerOf database) (ledgerOf final) := by
  rcases prepareExecution_eq_ok committed with
    rfl | ⟨checkout, expiresAt, reservations, checkoutEq, isOpen, none, fits, inserted,
      finalEq, appends⟩
  · exact Movement.untouched
  · rw [ledgerOf_eq (outcomeTrail_of_appends appends (by decide)), finalEq]
    exact Movement.reserved checkout reservationId expiresAt reservations
      (findCheckout_eq_some_iff.mp checkoutEq).1 isOpen
      (holdingForCheckout_eq_none_iff.mp none) fits inserted

theorem admitPayment_movement {idempotencyKey : String} {admission : PaymentAdmission}
    (committed : Payments.admitPayment checkoutId merchantId idempotencyKey capability
      credentialId clock.evaluatedAt clock.admittedAt attemptId database =
        .ok (admission, final)) :
    Movement allowance clock (ledgerOf database) (ledgerOf final) := by
  rcases admitPayment_eq_ok committed with
    ⟨_, rfl, _⟩ | ⟨checkout, mandate, reservation, attempts, _, _, identityFree, checkoutEq,
      _, admits, _, inserted, finalEq, appends⟩
  · exact Movement.untouched
  · obtain ⟨member, sameId, _⟩ := findCheckout_eq_some_iff.mp checkoutEq
    obtain ⟨held, names, holding⟩ := holdingForCheckout_eq_some admits.held
    obtain ⟨_, _, satisfied⟩ := admits.intent
    rw [← sameId] at identityFree
    rw [ledgerOf_eq (outcomeTrail_of_appends appends (by decide)), finalEq]
    exact Movement.admitted checkout reservation idempotencyKey attemptId attempts member
      admits.atAdmission.checkoutOpen satisfied.hasLines held names holding
      admits.effectiveAtAdmission (findByIdentity_eq_none_iff.mp identityFree)
      (openForMandate_eq_none_iff.mp admits.noneOpen)
      (succeededForMandate_eq_none_iff.mp admits.mandateUnspent) inserted

end Movements

section Movements

variable {allowance : Allowance} {clock : Readings}
  {database final : Database}

omit [CaseFolding] [OperationDigest]

theorem abandonPaymentAttempt_movement {reason : AbandonmentReason} {note : Option String}
    {outcome : PaymentOutcome}
    (committed : Payments.abandonPaymentAttempt attemptId reason note capability
      clock.transactionTime database = .ok (outcome, final)) :
    Movement allowance clock (ledgerOf database) (ledgerOf final) := by
  obtain ⟨attempt, found, ⟨_, _, rfl⟩ | ⟨reservation, recorded, reservationEq, _, _, settles⟩⟩ :=
    abandonPaymentAttempt_eq_ok committed
  · exact Movement.untouched
  · exact settles.movement (Table.get?_eq_some_iff.mp found).1 reservationEq

end Movements

variable {allowance : Allowance} {clock : Readings}
  {database final : Database}

/-- Whatever an operation commits is a movement. -/
theorem Operation.perform_movement {operation : Operation}
    (allowed : operation.Within allowance database)
    (committed : operation.perform clock database = .ok (answer, final)) :
    Movement allowance clock (ledgerOf database) (ledgerOf final) := by
  cases operation with
  | outside merchants products mandates constraintSets benchmarkRuns =>
      obtain ⟨_, _, rewritten⟩ := silently_eq_ok committed
      obtain rfl := modify_eq_ok_iff.mp rewritten
      exact Movement.untouched
  | editCatalog variants =>
      obtain ⟨_, _, rewritten⟩ := silently_eq_ok committed
      obtain rfl := modify_eq_ok_iff.mp rewritten
      exact Movement.restocked variants allowed
  | createCheckout =>
      obtain ⟨_, _, created⟩ := silently_eq_ok committed
      exact createCheckout_movement created
  | prepareExecution =>
      obtain ⟨_, _, prepared⟩ := silently_eq_ok committed
      exact prepareExecution_movement prepared
  | releaseReservation =>
      obtain ⟨_, _, released⟩ := silently_eq_ok committed
      exact releaseReservation_movement allowed released
  | cancelCheckout =>
      obtain ⟨_, _, cancelled⟩ := silently_eq_ok committed
      exact cancelCheckout_movement cancelled
  | revokeMandate =>
      obtain ⟨_, _, revoked⟩ := silently_eq_ok committed
      obtain ⟨finalEq, appends⟩ := revokeMandate_eq_ok revoked
      exact movement_of_same appends (by decide) (by rw [finalEq]) (by rw [finalEq])
        (by rw [finalEq]) (by rw [finalEq])
  | admitPayment =>
      obtain ⟨_, _, admitted⟩ := silently_eq_ok committed
      exact admitPayment_movement admitted
  | beginDispatch =>
      obtain ⟨_, _, dispatched⟩ := silently_eq_ok committed
      exact beginDispatch_movement dispatched
  | recordExecution =>
      obtain ⟨_, _, recorded⟩ := reporting_eq_ok committed
      obtain ⟨_, _, records⟩ := recordExecution_eq_ok recorded
      exact records.movement
  | beginReconcile =>
      obtain ⟨_, _, started⟩ := silently_eq_ok committed
      obtain ⟨rfl, _⟩ := beginReconcile_eq_ok started
      exact Movement.untouched
  | recordQuery =>
      obtain ⟨_, _, recorded⟩ := reporting_eq_ok committed
      obtain ⟨_, _, records⟩ := recordQuery_eq_ok recorded
      exact records.movement
  | appendReconciled =>
      obtain ⟨_, _, appended⟩ := silently_eq_ok committed
      obtain ⟨finalEq, appends⟩ := appendReconciled_eq_ok appended
      exact movement_of_same appends (by decide) (by rw [finalEq]) (by rw [finalEq])
        (by rw [finalEq]) (by rw [finalEq])
  | recordExternalDispatch =>
      obtain ⟨_, _, dispatched⟩ := silently_eq_ok committed
      exact recordExternalDispatch_movement dispatched
  | applyProviderObservation =>
      obtain ⟨_, _, observed⟩ := reporting_eq_ok committed
      obtain ⟨_, _, records⟩ := applyProviderObservation_eq_ok observed
      exact records.movement
  | abandonPaymentAttempt =>
      obtain ⟨_, _, abandoned⟩ := reporting_eq_ok committed
      exact abandonPaymentAttempt_movement abandoned

/-- Every step of the system is a movement of the ledger. -/
theorem serve_movement {call : Operation × Readings} (allowed : call.1.Within allowance database) :
    Movement allowance call.2 (ledgerOf database) (ledgerOf (serve call database)) := by
  unfold serve
  cases outcome : call.1.perform call.2 database with
  | error failure =>
      rw [settle_of_error outcome]
      exact Movement.untouched
  | ok result =>
      rw [settle_of_ok outcome]
      exact Operation.perform_movement allowed outcome

end System

end AgentRank.Payments
