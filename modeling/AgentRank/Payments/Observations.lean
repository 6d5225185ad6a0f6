import AgentRank.Payments.Invariants

/-!
# What is learned about an attempt

This module models how `payments/operations.py` and `cli/payments.py` report a recovery,
and says what one delivery does: an observation that execution, reconciliation or an
interactive verification records, or an abandonment.

A delivery settles an open attempt, or it adds nothing to a settled one that agrees with it,
or it appends one conflict.  Nothing else that the services do settles an attempt.
-/

namespace AgentRank.Payments

open Checkout Inventory Mandates Relational Store Text

inductive PaymentOperationResult
  | resolvedSuccess
  | resolvedFailure
  | providerNeverExecuted
  | providerAbsent
  | stillUnresolved
  | alreadyTerminal
  | outcomeConflict
  | skippedNotDispatched
  | refused
  | abandoned
  | alreadyAbandoned
deriving DecidableEq

/-- `RESOLVING_RESULTS`. -/
def resolvingResults : List PaymentOperationResult :=
  [.resolvedSuccess, .resolvedFailure, .providerNeverExecuted]

def classify (outcome : PaymentOutcome) : PaymentOperationResult :=
  if outcome.conflict.isSome then .outcomeConflict
  else if outcome.attempt.status.isTerminal ∧ outcome.changed = false then .alreadyTerminal
  else if outcome.attempt.status = .succeeded then .resolvedSuccess
  else if outcome.attempt.status = .failed then
    if outcome.attempt.failureCode = some providerNeverExecuted then .providerNeverExecuted
    else .resolvedFailure
  else if outcome.providerRecord = some .absent then .providerAbsent
  else .stillUnresolved

/-- What the `abandon` command reports. -/
def abandonmentResult (outcome : PaymentOutcome) : PaymentOperationResult :=
  if outcome.changed then .abandoned else .alreadyAbandoned

/-- What is reported of an operation. -/
def Operation.report (operation : Operation) (outcome : PaymentOutcome) :
    PaymentOperationResult :=
  match operation with
  | .abandonPaymentAttempt _ _ _ _ => abandonmentResult outcome
  | _ => classify outcome

/-- A report that an attempt has just been settled. -/
def PaymentOperationResult.isNews (result : PaymentOperationResult) : Bool :=
  resolvingResults.contains result || result == .abandoned

variable {outcome : PaymentOutcome}

/-- A classification is news when the call moved a row that is settled now. -/
theorem classify_isNews_iff :
    (classify outcome).isNews = true ↔
      outcome.conflict = none ∧ outcome.changed = true ∧
        outcome.attempt.status.isTerminal = true := by
  rcases outcome with ⟨attempt, changed, _, conflict, _⟩
  cases conflict with
  | some conflict => simp [classify, PaymentOperationResult.isNews, resolvingResults]
  | none =>
      cases changed <;> cases status : attempt.status <;>
        simp [classify, status, PaymentAttemptStatus.isTerminal] <;> (try split) <;>
          simp [PaymentOperationResult.isNews, resolvingResults]

/-! ## Deliveries -/

/-- The terminal status that an answer stands for. -/
def ProviderOutcome.settlement : ProviderOutcome → Option PaymentAttemptStatus
  | succeeded => some .succeeded
  | failed => some .failed
  | unknown => none

namespace Operation

/-- The attempt that a provider was heard about, and what it said. -/
def observed : Operation → Option (Uuid × ProviderOutcome)
  | recordExecution attemptId result => some (attemptId, result.outcome)
  | recordQuery attemptId found => some (attemptId, (fromQuery found).1.outcome)
  | applyProviderObservation attemptId result _ _ => some (attemptId, result.outcome)
  | _ => none

/-- The attempt that an operation delivers an outcome of. -/
def about : Operation → Option Uuid
  | abandonPaymentAttempt attemptId _ _ _ => some attemptId
  | operation => operation.observed.map Prod.fst

/-- How an operation would settle its attempt. -/
def verdict : Operation → Option PaymentAttemptStatus
  | abandonPaymentAttempt _ _ _ _ => some .failed
  | operation => operation.observed.bind fun heard => heard.2.settlement

/-- The type of the event that a settlement appends. -/
def settlementType (operation : Operation) (status : PaymentAttemptStatus) : EventType :=
  match operation, status with
  | abandonPaymentAttempt _ _ _ _, _ => .paymentAbandoned
  | _, .succeeded => .paymentSucceeded
  | _, _ => .paymentFailed

end Operation

namespace Operation

variable {operation : Operation} {outcome : PaymentOutcome}

theorem verdict_isTerminal {status : PaymentAttemptStatus}
    (verdict : operation.verdict = some status) : status.isTerminal = true := by
  have ofOutcome : ∀ heard : ProviderOutcome, heard.settlement = some status →
      status.isTerminal = true := by
    intro heard settles
    cases heard <;> cases settles <;> rfl
  cases operation with
  | abandonPaymentAttempt =>
      cases verdict
      rfl
  | recordExecution | recordQuery | applyProviderObservation => exact ofOutcome _ verdict
  | outside | editCatalog | createCheckout | prepareExecution | releaseReservation
  | cancelCheckout | revokeMandate | admitPayment | beginDispatch | beginReconcile
  | appendReconciled | recordExternalDispatch => cases verdict

/-- Only the abandonment of an attempt is reported in another way, and it settles the attempt. -/
theorem report_eq (operation : Operation) (outcome : PaymentOutcome) :
    operation.report outcome = classify outcome ∨
      operation.report outcome = abandonmentResult outcome ∧ operation.verdict ≠ none := by
  cases operation with
  | abandonPaymentAttempt => exact Or.inr ⟨rfl, nofun⟩
  | outside | editCatalog | createCheckout | prepareExecution | releaseReservation
  | cancelCheckout | revokeMandate | admitPayment | beginDispatch | recordExecution
  | beginReconcile | recordQuery | appendReconciled | recordExternalDispatch
  | applyProviderObservation => exact Or.inl rfl

/-- Nothing that a call left as it was is news. -/
theorem report_of_unchanged (unchanged : outcome.changed = false) :
    (operation.report outcome).isNews = false := by
  rcases operation.report_eq outcome with classified | ⟨abandoned, _⟩
  · rw [classified, Bool.eq_false_iff, ne_eq, classify_isNews_iff, unchanged]
    nofun
  · simp [abandoned, abandonmentResult, unchanged, PaymentOperationResult.isNews,
      resolvingResults]

/-- A settlement is news. -/
theorem report_of_settled (quiet : outcome.conflict = none)
    (changed : outcome.changed = true)
    (isTerminal : outcome.attempt.status.isTerminal = true) :
    (operation.report outcome).isNews = true := by
  rcases operation.report_eq outcome with classified | ⟨abandoned, _⟩
  · rw [classified]
    exact classify_isNews_iff.mpr ⟨quiet, changed, isTerminal⟩
  · simp [abandoned, abandonmentResult, changed, PaymentOperationResult.isNews]

/-- An observation is a delivery about its attempt. -/
theorem of_observed {attemptId : Uuid} {heard : ProviderOutcome}
    (isObserved : operation.observed = some (attemptId, heard)) :
    operation.about = some attemptId ∧ operation.verdict = heard.settlement := by
  cases operation with
  | recordExecution | recordQuery | applyProviderObservation =>
      rcases Prod.mk.inj (Option.some.inj isObserved) with ⟨rfl, rfl⟩
      exact ⟨rfl, rfl⟩
  | abandonPaymentAttempt | outside | editCatalog | createCheckout | prepareExecution
  | releaseReservation | cancelCheckout | revokeMandate | admitPayment | beginDispatch
  | beginReconcile | appendReconciled | recordExternalDispatch => cases isObserved

/-- What an operation reports that settles nothing and leaves its attempt open is no news. -/
theorem report_of_undecided (undecided : operation.verdict = none)
    (isOpen : outcome.attempt.status.isTerminal = false) :
    (operation.report outcome).isNews = false := by
  rcases operation.report_eq outcome with classified | ⟨_, decided⟩
  · rw [classified, Bool.eq_false_iff, ne_eq, classify_isNews_iff, isOpen]
    nofun
  · exact absurd undecided decided

end Operation

/-- What a settlement does to the hold of its attempt and to the stock. -/
inductive MovesStock (database final : Database) (attempt : PaymentAttempt) :
    PaymentAttemptStatus → Prop
  | sold (reservation : InventoryReservation) (consumedAt : Option Instant)
      (held : database.reservations.get? attempt.reservationId = some reservation)
      (rows : final.reservations =
        database.reservations.set (consumedRow reservation consumedAt))
      (units : reservation.status = .consumed ∧ final.variants = database.variants ∨
        reservation.status = .committed ∧ final.variants =
          (consumeStock reservation.merchantId database.variants reservation.lines).1) :
      MovesStock database final attempt .succeeded
  | returned (reservation : InventoryReservation) (releasedAt : Option Instant)
      (held : database.reservations.get? attempt.reservationId = some reservation)
      (rows : final.reservations =
        database.reservations.set (releasedRow reservation releasedAt))
      (units : final.variants = database.variants) :
      MovesStock database final attempt .failed

/-- What a committed delivery does. -/
inductive Delivery (database : Database) (attemptId : Uuid) (operation : Operation) :
    PaymentOutcome → Database → Prop
  /-- The attempt stands already where the delivery would put it, or nothing was learned. -/
  | idle (outcome : PaymentOutcome)
      (found : database.attempts.get? attemptId = some outcome.attempt)
      (unchanged : outcome.changed = false) (quiet : outcome.conflict = none)
      (agrees : ∀ status, operation.verdict = some status → outcome.attempt.status = status) :
      Delivery database attemptId operation outcome database
  /-- Nobody knows. -/
  | clouded (outcome : PaymentOutcome) (final : Database) (attempt : PaymentAttempt)
      (source : OutcomeSource) (found : database.attempts.get? attemptId = some attempt)
      (inFlight : attempt.status = .inFlight) (undecided : operation.verdict = none)
      (isRow : outcome.attempt = unknownRow attempt source) (quiet : outcome.conflict = none)
      (rows : final.attempts = database.attempts.set (unknownRow attempt source))
      (stock : final.reservations = database.reservations ∧ final.variants = database.variants)
      (trail : outcomeTrail final = outcomeTrail database) :
      Delivery database attemptId operation outcome final
  /-- The answer contradicts a settled attempt. -/
  | disputed (outcome : PaymentOutcome) (attempt : PaymentAttempt)
      (observed : ProviderOutcome) (status : PaymentAttemptStatus)
      (found : database.attempts.get? attemptId = some attempt)
      (isTerminal : attempt.status.isTerminal = true)
      (verdict : operation.verdict = some status) (contradicts : status ≠ attempt.status)
      (isRow : outcome.attempt = attempt) (unchanged : outcome.changed = false)
      (conflict : outcome.conflict =
        some { authoritative := attempt.status, observed := observed }) :
      Delivery database attemptId operation outcome
        { database with
          auditEvents :=
            database.auditEvents ++
              [conflictEvent attempt
                { authoritative := attempt.status, observed := observed }] }
  /-- The delivery settles the attempt. -/
  | settled (outcome : PaymentOutcome) (final : Database) (attempt row : PaymentAttempt)
      (event : AuditEvent) (found : database.attempts.get? attemptId = some attempt)
      (isDispatched : attempt.status.isDispatched = true)
      (sameId : row.id = attempt.id)
      (verdict : operation.verdict = some row.status)
      (isTerminal : row.status.isTerminal = true)
      (isRow : outcome.attempt = row) (changed : outcome.changed = true)
      (quiet : outcome.conflict = none)
      (rows : final.attempts = database.attempts.set row)
      (stock : MovesStock database final attempt row.status)
      (trail : outcomeTrail final = outcomeTrail database ++ [event])
      (isType : event.eventType = operation.settlementType row.status)
      (names : event.resourceId = attemptId) :
      Delivery database attemptId operation outcome final

variable {row : PaymentAttempt}

section Deliveries

variable {database final : Database} {attemptId : Uuid}

theorem SettlesSuccess.movesStock {locked : LockedOutcome} {event : AuditEvent}
    (locks : Locks database attemptId locked)
    (settles : SettlesSuccess database final locked row event) :
    MovesStock database final locked.attempt .succeeded := by
  rcases settles.rows with ⟨paidAt, consumedAt, variants, finalEq, units⟩
  refine .sold locked.reservation consumedAt locks.reservation ?_ ?_
  · rw [finalEq]
    rfl
  · rw [finalEq]
    exact units

theorem SettlesFailure.movesStock {attempt : PaymentAttempt} {reservation : InventoryReservation}
    {event : AuditEvent}
    (held : database.reservations.get? attempt.reservationId = some reservation)
    (settles : SettlesFailure database final attempt reservation row event) :
    MovesStock database final attempt .failed := by
  rcases settles.rows with ⟨releasedAt, finalEq⟩
  refine .returned reservation releasedAt held ?_ ?_
  · rw [finalEq]
    rfl
  · rw [finalEq]

/-- What recording an observation delivers. -/
theorem Records.delivery {result : ProviderResult} {source : OutcomeSource}
    {transactionTime : Instant} {recorded : PaymentOutcome}
    (records : Records database attemptId result source transactionTime recorded final)
    (verdict : operation.verdict = result.outcome.settlement)
    (isType : ∀ status, operation.settlementType status =
      if status = .succeeded then .paymentSucceeded else .paymentFailed)
    (sameAttempt : outcome.attempt = recorded.attempt)
    (sameChanged : outcome.changed = recorded.changed)
    (sameConflict : outcome.conflict = recorded.conflict) :
    Delivery database attemptId operation outcome final := by
  cases records with
  | nothing attempt found agrees =>
      refine .idle outcome (sameAttempt ▸ found) sameChanged sameConflict ?_
      intro status isVerdict
      rw [verdict] at isVerdict
      rw [sameAttempt]
      rcases agrees with ⟨isUnknown, _⟩ | ⟨isSuccess, stands⟩ | ⟨isFailure, stands⟩
      · rw [isUnknown] at isVerdict
        cases isVerdict
      · rw [isSuccess] at isVerdict
        cases isVerdict
        exact stands
      · rw [isFailure] at isVerdict
        cases isVerdict
        exact stands
  | conflict attempt found contradicts =>
      rcases contradicts with ⟨isSuccess, stands⟩ | ⟨isFailure, stands⟩
      · refine .disputed outcome attempt result.outcome .succeeded found ?_ ?_ ?_ sameAttempt
          sameChanged sameConflict
        · rw [stands]
          rfl
        · rw [verdict, isSuccess]
          rfl
        · rw [stands]
          nofun
      · refine .disputed outcome attempt result.outcome .failed found ?_ ?_ ?_ sameAttempt
          sameChanged sameConflict
        · rw [stands]
          rfl
        · rw [verdict, isFailure]
          rfl
        · rw [stands]
          nofun
  | success locked locks isSuccess reference final referenceEq settles =>
      refine .settled outcome final locked.attempt
        (succeededRow locked.attempt reference source transactionTime) _ locks.attempt
        settles.dispatched rfl ?_ rfl sameAttempt sameChanged sameConflict ?_
        (settles.movesStock locks) settles.trail ?_ ?_
      · rw [verdict, isSuccess]
        rfl
      · rcases settles.rows with ⟨_, _, _, finalEq, _⟩
        rw [finalEq]
      · rw [isType]
        rfl
      · exact (Table.get?_eq_some_iff.mp locks.attempt).2
  | failure locked locks isFailure failureCode final settles =>
      refine .settled outcome final locked.attempt
        (failedRow locked.attempt failureCode result.reference source transactionTime) _
        locks.attempt settles.dispatched rfl ?_ rfl sameAttempt sameChanged sameConflict ?_
        (settles.movesStock locks.reservation) settles.trail ?_ ?_
      · rw [verdict, isFailure]
        rfl
      · rcases settles.rows with ⟨_, finalEq⟩
        rw [finalEq]
      · rw [isType]
        rfl
      · exact (Table.get?_eq_some_iff.mp locks.attempt).2
  | clouded attempt found isUnknown inFlight =>
      refine .clouded outcome _ attempt source found inFlight ?_ sameAttempt sameConflict rfl
        ⟨rfl, rfl⟩ ?_
      · rw [verdict, isUnknown]
        rfl
      · have quiet : Appends [.paymentUnknown] database
            { database with
              attempts := database.attempts.set (unknownRow attempt source)
              auditEvents :=
                database.auditEvents ++
                  [paymentEvent (unknownRow attempt source) .paymentUnknown none none] } :=
          Appends.event (List.mem_singleton_self _) rfl
        exact outcomeTrail_of_appends quiet (by decide)

end Deliveries

section System

variable [CaseFolding] [OperationDigest] [PrintableText] {clock : Readings}
  {database final : Database} {attemptId : Uuid} {answer : Option PaymentOutcome}

/-- A committed delivery reports what it did. -/
theorem Operation.perform_delivery (about : operation.about = some attemptId)
    (committed : operation.perform clock database = .ok (answer, final)) :
    ∃ outcome, answer = some outcome ∧ Delivery database attemptId operation outcome final := by
  cases operation with
  | recordExecution deliveredId result =>
      cases about
      rcases reporting_eq_ok committed with ⟨outcome, answerEq, performed⟩
      rcases recordExecution_eq_ok performed with ⟨recorded, rfl, records⟩
      refine ⟨_, answerEq, records.delivery rfl ?_ rfl rfl rfl⟩
      exact fun status => by cases status <;> rfl
  | recordQuery deliveredId found =>
      cases about
      rcases reporting_eq_ok committed with ⟨outcome, answerEq, performed⟩
      rcases recordQuery_eq_ok performed with ⟨recorded, rfl, records⟩
      refine ⟨_, answerEq, records.delivery rfl ?_ rfl rfl rfl⟩
      exact fun status => by cases status <;> rfl
  | applyProviderObservation deliveredId result source capability =>
      cases about
      rcases reporting_eq_ok committed with ⟨outcome, answerEq, performed⟩
      rcases applyProviderObservation_eq_ok performed with ⟨recorded, rfl, records⟩
      refine ⟨_, answerEq, records.delivery rfl ?_ rfl rfl rfl⟩
      exact fun status => by cases status <;> rfl
  | abandonPaymentAttempt deliveredId reason note capability =>
      cases about
      rcases reporting_eq_ok committed with ⟨outcome, answerEq, performed⟩
      refine ⟨outcome, answerEq, ?_⟩
      rcases abandonPaymentAttempt_eq_ok performed with ⟨attempt, found,
        ⟨isFailed, rfl, rfl⟩ | ⟨reservation, recorded, held, isUnknown, rfl, settles⟩⟩
      · refine .idle _ found rfl rfl ?_
        rintro _ ⟨⟩
        exact isFailed
      · refine .settled _ final attempt (abandonedRow attempt clock.transactionTime) _ found
          settles.dispatched rfl rfl rfl rfl rfl rfl ?_ (settles.movesStock held) settles.trail
          rfl (Table.get?_eq_some_iff.mp found).2
        rcases settles.rows with ⟨_, finalEq⟩
        rw [finalEq]
  | outside | editCatalog | createCheckout | prepareExecution | releaseReservation
  | cancelCheckout | revokeMandate | admitPayment | beginDispatch | beginReconcile
  | appendReconciled | recordExternalDispatch => cases about

/-- What is no delivery answers nothing and appends no outcome. -/
theorem Operation.perform_quiet {operation : Operation} (elsewhere : operation.about = none)
    (committed : operation.perform clock database = .ok (answer, final)) :
    answer = none ∧ outcomeTrail final = outcomeTrail database := by
  cases operation with
  | recordExecution | recordQuery | applyProviderObservation | abandonPaymentAttempt =>
      cases elsewhere
  | outside | editCatalog =>
      rcases silently_eq_ok committed with ⟨rfl, _, rewritten⟩
      rw [Transaction.modify_eq_ok_iff.mp rewritten]
      exact ⟨rfl, rfl⟩
  | createCheckout =>
      rcases silently_eq_ok committed with ⟨rfl, _, created⟩
      rcases createCheckout_eq_ok created with ⟨_, _, _, _, _, _, appends⟩
      exact ⟨rfl, outcomeTrail_of_appends appends (by decide)⟩
  | prepareExecution =>
      rcases silently_eq_ok committed with ⟨rfl, _, prepared⟩
      rcases prepareExecution_eq_ok prepared with rfl | ⟨_, _, _, _, _, _, _, _, _, appends⟩
      · exact ⟨rfl, rfl⟩
      · exact ⟨rfl, outcomeTrail_of_appends appends (by decide)⟩
  | releaseReservation =>
      rcases silently_eq_ok committed with ⟨rfl, _, released⟩
      exact ⟨rfl, outcomeTrail_of_appends (releaseReservation_eq_ok released).1 (by decide)⟩
  | cancelCheckout =>
      rcases silently_eq_ok committed with ⟨rfl, _, cancelled⟩
      rcases cancelCheckout_eq_ok cancelled with ⟨_, _, _, _, _, _, _, _, appends⟩
      exact ⟨rfl, outcomeTrail_of_appends appends (by decide)⟩
  | revokeMandate =>
      rcases silently_eq_ok committed with ⟨rfl, _, revoked⟩
      exact ⟨rfl, outcomeTrail_of_appends (revokeMandate_eq_ok revoked).2 (by decide)⟩
  | admitPayment =>
      rcases silently_eq_ok committed with ⟨rfl, _, admitted⟩
      rcases admitPayment_eq_ok admitted with ⟨_, rfl, _⟩ | ⟨_, _, _, _, _, _, _, _, _, _, _, _, _, appends⟩
      · exact ⟨rfl, rfl⟩
      · exact ⟨rfl, outcomeTrail_of_appends appends (by decide)⟩
  | beginDispatch =>
      rcases silently_eq_ok committed with ⟨rfl, _, dispatched⟩
      rcases beginDispatch_eq_ok dispatched with ⟨_, _, _, _, rfl⟩
      exact ⟨rfl, rfl⟩
  | beginReconcile =>
      rcases silently_eq_ok committed with ⟨rfl, _, started⟩
      rw [(beginReconcile_eq_ok started).1]
      exact ⟨rfl, rfl⟩
  | appendReconciled =>
      rcases silently_eq_ok committed with ⟨rfl, _, appended⟩
      exact ⟨rfl, outcomeTrail_of_appends (appendReconciled_eq_ok appended).2 (by decide)⟩
  | recordExternalDispatch =>
      rcases silently_eq_ok committed with ⟨rfl, _, dispatched⟩
      rcases recordExternalDispatch_eq_ok dispatched with ⟨_, _, ⟨_, _, rfl⟩ | ⟨_, _, rfl⟩⟩
      · exact ⟨rfl, rfl⟩
      · exact ⟨rfl, rfl⟩

end System

/-- A movement that appends no outcome settles no attempt. -/
theorem Movement.settles_nothing {allowance : Allowance} {clock : Readings} {ledger next : Ledger}
    (movement : Movement allowance clock ledger next) (quiet : next.trail = ledger.trail)
    (member : row ∈ next.attempts) (isTerminal : row.status.isTerminal = true) :
    row ∈ ledger.attempts := by
  have longer : ∀ event, ledger.trail ++ [event] ≠ ledger.trail := by simp
  cases movement with
  | untouched | restocked | quoted | reserved | withdrawn | released => exact member
  | admitted checkout reservation key attemptId attempts _ _ _ _ _ _ _ _ _ _ inserted =>
      rcases (Table.mem_insert?_iff inserted).mp member with old | rfl
      · exact old
      · cases isTerminal
  | dispatched attempt old isAdmitted =>
      have sameId : attempt.id = (dispatchedRow attempt clock.transactionTime).id := rfl
      rcases (Table.mem_set_iff_ne old sameId).mp member with rfl | ⟨same, _⟩
      · cases isTerminal
      · exact same
  | clouded attempt source old inFlight =>
      have sameId : attempt.id = (unknownRow attempt source).id := rfl
      rcases (Table.mem_set_iff_ne old sameId).mp member with rfl | ⟨same, _⟩
      · cases isTerminal
      · exact same
  | succeeded _ _ _ _ _ _ _ _ event | failed _ _ _ _ _ _ event | disputed event =>
      exact absurd quiet (longer event)

end AgentRank.Payments
