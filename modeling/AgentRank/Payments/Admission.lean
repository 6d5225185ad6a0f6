import AgentRank.Checkout.Execution
import AgentRank.Checkout.IntentSoundness
import AgentRank.Payments.Attempts

/-!
# Admission

This module models `payments/admission.py`: the one transaction that decides a
payment may happen and records that it decided.  Admission requires a hold and
never makes one, freezes the amount and the currency of the quote, and refuses
with nothing written.
-/

namespace AgentRank.Payments

open Checkout Constraints Inventory Relational Store Text Transaction

/-- Why a payment was not admitted. -/
inductive AdmissionRefusal
  | notAuthorized
  | reservationMissing
  | reservationExpired
  | mandateAlreadyConsumed
  | checkoutAlreadyPaid
  | paymentInProgress
  | mandatePaymentInProgress
deriving DecidableEq

def AdmissionRefusal.value : AdmissionRefusal → String
  | notAuthorized => "payment_not_authorized"
  | reservationMissing => "reservation_missing"
  | reservationExpired => "reservation_expired"
  | mandateAlreadyConsumed => "mandate_already_consumed"
  | checkoutAlreadyPaid => "checkout_already_paid"
  | paymentInProgress => "payment_in_progress"
  | mandatePaymentInProgress => "mandate_payment_in_progress"

/-- Whether a payment may now be attempted, and everything that decided it. -/
structure PaymentAdmission where
  checkoutId : Uuid
  evaluatedAt : Instant
  authorization : CheckoutExecutionAuthorization
  admittedAt : Option Instant := none
  attempt : Option PaymentAttempt := none
  created : Bool := false
  refusal : Option AdmissionRefusal := none

def PaymentAdmission.admitted (admission : PaymentAdmission) : Bool :=
  admission.attempt.isSome && admission.refusal.isNone

def paymentResource : String := "payment_attempt"

/-- `_admitted_payload`. -/
def admittedPayload (attempt : PaymentAttempt) (reservation : InventoryReservation) :
    List (String × Json) :=
  [("checkout_id", Payload.uuid attempt.checkoutId),
    ("mandate_id", Payload.uuid attempt.mandateId),
    ("reservation_id", Payload.uuid reservation.id),
    ("amount_minor", Payload.number attempt.amountMinor),
    ("currency", Payload.text attempt.currency),
    ("status", Payload.text attempt.status.value),
    ("total_quantity", Payload.number reservation.totalQuantity)]

/-- The row `PaymentAttemptRepository.create` writes: always admitted, with the
amount and the currency of the quote. -/
def newAttempt (checkout : CheckoutSession) (reservation : InventoryReservation)
    (idempotencyKey : String) (attemptId : Uuid) : PaymentAttempt where
  id := attemptId
  merchantId := checkout.merchantId
  checkoutId := checkout.id
  mandateId := checkout.mandateId
  reservationId := reservation.id
  idempotencyKey := idempotencyKey
  amountMinor := checkout.totalAmountMinor
  currency := checkout.currency
  status := .admitted
  providerReference := none
  failureCode := none
  outcomeSource := none
  dispatchedAt := none
  resolvedAt := none

/-- `_already_settled`: whether this mandate or this checkout has been paid
for. -/
def alreadySettled (database : Database) (checkout : CheckoutSession) :
    Option AdmissionRefusal :=
  if (succeededForMandate database checkout.mandateId).isSome then
    some .mandateAlreadyConsumed
  else if (succeededForCheckout database checkout.id).isSome then
    some .checkoutAlreadyPaid
  else none

/-- Which refusal an unresolved attempt under the mandate is answered with. -/
def openRefusal (openAttempt : PaymentAttempt) (checkoutId : Uuid) : AdmissionRefusal :=
  if openAttempt.checkoutId = checkoutId then .paymentInProgress
  else .mandatePaymentInProgress

/-- `_refuse`: roll back and report why. -/
def refuse (before : Database) (locked : LockedAuthorization)
    (refusal : AdmissionRefusal) : Session PaymentAdmission := do
  set before
  pure
    { checkoutId := locked.checkout.id
      evaluatedAt := locked.evaluatedAt
      admittedAt := locked.admittedAt
      authorization := locked.authorization
      refusal := some refusal }

/-- The writes of an admission: the attempt, the bound hold and the event. -/
def recordAdmission (locked : LockedAuthorization) (reservation : InventoryReservation)
    (attempt : PaymentAttempt) (credentialId : Option Uuid) (admittedAt : Instant) :
    Session PaymentAdmission := do
  insertAttempt attempt
  let _ ← commitToPayment reservation
  appendAudit
    { merchantId := attempt.merchantId
      actorType := .buyer
      credentialId := credentialId
      eventType := .paymentAdmitted
      resourceType := paymentResource
      resourceId := attempt.id
      payload := admittedPayload attempt reservation }
  pure
    { checkoutId := attempt.checkoutId
      evaluatedAt := locked.evaluatedAt
      admittedAt := some admittedAt
      authorization := locked.authorization
      attempt := some attempt
      created := true }

section Admission

variable [CaseFolding]

/-- `PaymentAdmissionService.admit_payment`. -/
def admitPayment (checkoutId merchantId : Uuid) (idempotencyKey : String)
    (capability : Option BenchmarkRunCapability) (credentialId : Option Uuid)
    (evaluatedAt admittedAt : Instant) (attemptId : Uuid) : Session PaymentAdmission := do
  enforce (validateIdempotencyKey idempotencyKey)
  requireAllowed merchantId capability
  let locked ← authorizeUnderLocks checkoutId merchantId evaluatedAt admittedAt
  let database ← get
  match findByIdentity database checkoutId idempotencyKey with
  | some existing =>
      -- The same logical operation, asked again, whatever the gates say now.
      pure
        { checkoutId := checkoutId
          evaluatedAt := locked.evaluatedAt
          admittedAt := locked.admittedAt
          authorization := locked.authorization
          attempt := some existing }
  | none =>
      match locked.admitted with
      | none =>
          refuse database locked
            (if locked.checkout.status = .paid then .checkoutAlreadyPaid
              else .notAuthorized)
      | some admittedAt =>
          match holdingForCheckout database checkoutId with
          | none => refuse database locked .reservationMissing
          | some reservation =>
              if isEffective reservation locked.evaluatedAt &&
                  isEffective reservation admittedAt then
                match alreadySettled database locked.checkout with
                | some refusal => refuse database locked refusal
                | none =>
                    match openForMandate database locked.checkout.mandateId with
                    | some openAttempt =>
                        refuse database locked (openRefusal openAttempt checkoutId)
                    | none =>
                        recordAdmission locked reservation
                          (newAttempt locked.checkout reservation idempotencyKey attemptId)
                          credentialId admittedAt
              else refuse database locked .reservationExpired

/-! ## What a committed admission decided -/

/-- Everything an attempt that was created rests on. -/
structure Admits (database : Database) (checkout : CheckoutSession)
    (mandate : SpendingMandate) (reservation : InventoryReservation)
    (evaluatedAt admittedAt : Instant) : Prop where
  atEvaluation : FinanciallyAuthorized checkout mandate evaluatedAt
  atAdmission : FinanciallyAuthorized checkout mandate admittedAt
  intent : ∃ constraintSet,
    findConstraintSet database checkout.mandateId checkout.merchantId =
        some constraintSet ∧
      IntentSatisfied checkout constraintSet
  held : holdingForCheckout database checkout.id = some reservation
  effectiveAtEvaluation : isEffective reservation evaluatedAt = true
  effectiveAtAdmission : isEffective reservation admittedAt = true
  mandateUnspent : succeededForMandate database checkout.mandateId = none
  checkoutUnpaid : succeededForCheckout database checkout.id = none
  noneOpen : openForMandate database checkout.mandateId = none

variable {admission : PaymentAdmission} {database : Database}

omit [CaseFolding] in
/-- A refusal sets the rows back and creates nothing. -/
theorem refuse_eq_ok {before final : Database} {locked : LockedAuthorization}
    {refusal : AdmissionRefusal}
    (committed : refuse before locked refusal database = .ok (admission, final)) :
    admission.attempt = none ∧ admission.created = false ∧
      admission.refusal = some refusal ∧ final = before := by
  simp only [refuse, bind_eq_ok_iff, set_eq_ok_iff,
    pure_eq_ok_iff] at committed
  obtain ⟨_, _, rfl, rfl, rfl⟩ := committed
  exact ⟨rfl, rfl, rfl, rfl⟩

omit [CaseFolding] in
/-- Nothing is settled exactly when neither the mandate nor the checkout was paid
with. -/
theorem alreadySettled_eq_none {checkout : CheckoutSession}
    (unsettled : alreadySettled database checkout = none) :
    succeededForMandate database checkout.mandateId = none ∧
      succeededForCheckout database checkout.id = none := by
  unfold alreadySettled at unsettled
  split at unsettled
  · cases unsettled
  · next mandate =>
      split at unsettled
      · cases unsettled
      · next paid =>
          exact ⟨Option.not_isSome_iff_eq_none.mp mandate,
            Option.not_isSome_iff_eq_none.mp paid⟩

omit [CaseFolding] in
/-- A recorded admission inserted the attempt, bound its hold and appended one
event. -/
theorem recordAdmission_eq_ok {locked : LockedAuthorization} {reservation : InventoryReservation}
    {attempt : PaymentAttempt} {credentialId : Option Uuid} {admittedAt : Instant}
    {final : Database} (member : reservation ∈ database.reservations)
    (committed : recordAdmission locked reservation attempt credentialId admittedAt database =
      .ok (admission, final)) :
    admission.attempt = some attempt ∧ admission.created = true ∧
      admission.refusal = none ∧
      ∃ attempts, database.attempts.insert? attempt = some attempts ∧
        final =
          { database with
            attempts := attempts
            reservations :=
              database.reservations.set { reservation with status := .committed }
            auditEvents := final.auditEvents } ∧
        Appends [.paymentAdmitted] database final := by
  simp only [recordAdmission, bind_eq_ok_iff, insertAttempt_eq_ok_iff,
    appendAudit_eq_ok_iff, pure_eq_ok_iff] at committed
  obtain ⟨_, _, ⟨_, attempts, inserted, rfl⟩, bound, _, boundEq, _, _, rfl, rfl, rfl⟩ :=
    committed
  obtain ⟨_, rfl⟩ := commitToPayment_eq_ok (by exact member) boundEq
  exact ⟨rfl, rfl, rfl, attempts, inserted, rfl,
    Appends.event (List.mem_singleton_self _) rfl⟩

/-- A committed admission answered with what stood already, or refused, or created
one attempt that everything admits.  Only the last writes. -/
theorem admitPayment_eq_ok {checkoutId merchantId : Uuid} {idempotencyKey : String}
    {capability : Option BenchmarkRunCapability} {credentialId : Option Uuid}
    {evaluatedAt admittedAt : Instant} {attemptId : Uuid} {final : Database}
    (committed : admitPayment checkoutId merchantId idempotencyKey capability credentialId
      evaluatedAt admittedAt attemptId database = .ok (admission, final)) :
    (admission.created = false ∧ final = database ∧
        admission.attempt = findByIdentity database checkoutId idempotencyKey) ∨
      ∃ checkout mandate reservation attempts,
        admission.created = true ∧ admission.refusal = none ∧
        findByIdentity database checkoutId idempotencyKey = none ∧
        findCheckout database checkoutId merchantId = some checkout ∧
        findMandate database checkout.mandateId checkout.merchantId = some mandate ∧
        Admits database checkout mandate reservation evaluatedAt admittedAt ∧
        admission.attempt = some (newAttempt checkout reservation idempotencyKey attemptId) ∧
        database.attempts.insert? (newAttempt checkout reservation idempotencyKey attemptId) =
          some attempts ∧
        final =
          { database with
            attempts := attempts
            reservations :=
              database.reservations.set { reservation with status := .committed }
            auditEvents := final.auditEvents } ∧
        Appends [.paymentAdmitted] database final := by
  unfold admitPayment at committed
  simp only [bind_eq_ok_iff, enforce_eq_ok_iff, requireAllowed_eq_ok_iff,
    get_eq_ok_iff] at committed
  obtain ⟨_, _, ⟨_, rfl⟩, _, _, ⟨_, rfl⟩, locked, _, lockedEq, _, database, ⟨rfl, rfl⟩,
    committed⟩ := committed
  obtain ⟨rfl, evaluatedEq, checkoutEq, mandateEq, permitted⟩ := authorizeUnderLocks_eq_ok lockedEq
  cases identity : findByIdentity database checkoutId idempotencyKey with
  | some existing =>
      rw [identity] at committed
      obtain ⟨rfl, rfl⟩ := pure_eq_ok_iff.mp committed
      exact Or.inl ⟨rfl, rfl, rfl⟩
  | none =>
      rw [identity] at committed
      -- Every refusal sets the rows back and answers without an attempt.
      have refused : ∀ {refusal},
          refuse database locked refusal database = .ok (admission, final) →
            admission.created = false ∧ final = database ∧ admission.attempt = none := by
        intro refusal refusedEq
        obtain ⟨noAttempt, notCreated, _, rfl⟩ := refuse_eq_ok refusedEq
        exact ⟨notCreated, rfl, noAttempt⟩
      cases admitted : locked.admitted with
      | none =>
          rw [admitted] at committed
          exact Or.inl (refused committed)
      | some instant =>
          rw [admitted] at committed
          obtain ⟨rfl, allowed⟩ := permitted instant admitted
          cases held : holdingForCheckout database checkoutId with
          | none =>
              simp only [held] at committed
              exact Or.inl (refused committed)
          | some reservation =>
              simp only [held] at committed
              split at committed
              · next effective =>
                  cases settled : alreadySettled database locked.checkout with
                  | some refusal =>
                      simp only [settled] at committed
                      exact Or.inl (refused committed)
                  | none =>
                      simp only [settled] at committed
                      cases unresolved : openForMandate database locked.checkout.mandateId with
                      | some openAttempt =>
                          simp only [unresolved] at committed
                          exact Or.inl (refused committed)
                      | none =>
                          simp only [unresolved] at committed
                          rw [evaluatedEq, Bool.and_eq_true] at effective
                          obtain ⟨_, sameCheckout, _⟩ := findCheckout_eq_some_iff.mp checkoutEq
                          obtain ⟨member, _, _⟩ := holdingForCheckout_eq_some held
                          obtain ⟨attemptEq, created, noRefusal, attempts, inserted, finalEq⟩ :=
                            recordAdmission_eq_ok member committed
                          obtain ⟨mandateUnspent, checkoutUnpaid⟩ := alreadySettled_eq_none settled
                          right
                          exact
                            ⟨locked.checkout, locked.mandate, reservation, attempts, created,
                              noRefusal, rfl, checkoutEq, mandateEq,
                              { atEvaluation := allowed.atEvaluation
                                atAdmission := allowed.atAdmission
                                intent := allowed.intent
                                held := by rw [sameCheckout]; exact held
                                effectiveAtEvaluation := effective.1
                                effectiveAtAdmission := effective.2
                                mandateUnspent := mandateUnspent
                                checkoutUnpaid := checkoutUnpaid
                                noneOpen := unresolved },
                              attemptEq, inserted, finalEq⟩
              · exact Or.inl (refused committed)

/-- An attempt is created only for an open, unexpired quote inside every ceiling of
an active mandate, with every constraint kept on every line and an effective hold,
at both instants, and for the amount and the currency of the quote.  Whatever is
refused or raised leaves every row as it was. -/
theorem admission_rests_on_both_instants (checkoutId merchantId : Uuid)
    (idempotencyKey : String) (capability : Option BenchmarkRunCapability)
    (credentialId : Option Uuid) (evaluatedAt admittedAt : Instant) (attemptId : Uuid)
    (database : Database) :
    (∀ admission final,
      admitPayment checkoutId merchantId idempotencyKey capability credentialId evaluatedAt
          admittedAt attemptId database = .ok (admission, final) →
        admission.created = true →
          ∃ checkout mandate constraintSet reservation attempt,
            checkout ∈ database.checkouts ∧ checkout.id = checkoutId ∧
            findMandate database checkout.mandateId checkout.merchantId = some mandate ∧
            findConstraintSet database checkout.mandateId checkout.merchantId =
              some constraintSet ∧
            reservation ∈ database.reservations ∧ reservation.checkoutId = checkout.id ∧
            (∀ instant ∈ [evaluatedAt, admittedAt],
              FinanciallyAuthorized checkout mandate instant ∧
                IntentSatisfied checkout constraintSet ∧
                isEffective reservation instant = true) ∧
            admission.attempt = some attempt ∧ attempt ∈ final.attempts ∧
            attempt.amountMinor = checkout.totalAmountMinor ∧
            attempt.currency = checkout.currency) ∧
    (∀ admission final,
      admitPayment checkoutId merchantId idempotencyKey capability credentialId evaluatedAt
          admittedAt attemptId database = .ok (admission, final) →
        admission.refusal.isSome = true → final = database) ∧
    (∀ failure,
      admitPayment checkoutId merchantId idempotencyKey capability credentialId evaluatedAt
          admittedAt attemptId database = .error failure →
        (admitPayment checkoutId merchantId idempotencyKey capability credentialId evaluatedAt
          admittedAt attemptId).settle database = database) := by
  refine ⟨?_, ?_, ?_⟩
  · intro admission final committed created
    rcases admitPayment_eq_ok committed with ⟨notCreated, _⟩ |
      ⟨checkout, mandate, reservation, attempts, _, _, _, checkoutEq, mandateEq, admits,
        attemptEq, inserted, finalEq, _⟩
    · rw [notCreated] at created
      cases created
    · obtain ⟨checkoutMem, sameId, _⟩ := findCheckout_eq_some_iff.mp checkoutEq
      obtain ⟨reservationMem, sameCheckout, _⟩ := holdingForCheckout_eq_some admits.held
      obtain ⟨constraintSet, constraintSetEq, satisfied⟩ := admits.intent
      obtain ⟨_, rowsEq⟩ := Table.insert?_eq_some_iff.mp inserted
      refine ⟨checkout, mandate, constraintSet, reservation, _, checkoutMem, sameId, mandateEq,
        constraintSetEq, reservationMem, sameCheckout, ?_, attemptEq, ?_, rfl, rfl⟩
      · intro instant either
        rcases List.mem_pair.mp either with rfl | rfl
        · exact ⟨admits.atEvaluation, satisfied, admits.effectiveAtEvaluation⟩
        · exact ⟨admits.atAdmission, satisfied, admits.effectiveAtAdmission⟩
      · rw [finalEq, Table.mem_def, rowsEq]
        exact List.mem_append_right _ (List.mem_singleton_self _)
  · intro admission final committed refused
    rcases admitPayment_eq_ok committed with ⟨_, same, _⟩ |
      ⟨_, _, _, _, _, noRefusal, _⟩
    · exact same
    · rw [noRefusal] at refused
      cases refused
  · intro failure raised
    exact settle_of_error raised

end Admission

section Sample

local instance : CaseFolding := asciiFolding

/-- The hold of the sample quote, until 900. -/
def sampleHold : InventoryReservation :=
  newReservation sampleCheckout 10 900

/-- The sample world with its constraint set stored and its quote held. -/
def sampleHeldDatabase : Database :=
  { sampleDatabase with
    constraintSets := ⟨[sampleConstraintSet], by decide⟩
    reservations := ⟨[sampleHold], by decide⟩ }

theorem admission_rests_on_both_instants_sample :
    FinanciallyAuthorized sampleCheckout sampleMandate 20 ∧
      (∀ admission final,
        admitPayment 2 0 "order-0001" none none 10 950 11 sampleHeldDatabase =
            .ok (admission, final) →
          admission.refusal.isSome = true → final = sampleHeldDatabase) := by
  have created : ∃ admission final,
      admitPayment 2 0 "order-0001" none none 10 20 11 sampleHeldDatabase =
          .ok (admission, final) ∧ admission.created = true :=
    ⟨_, _, rfl, rfl⟩
  obtain ⟨admission, final, committed, isNew⟩ := created
  obtain ⟨checkout, mandate, _, _, _, checkoutMem, _, mandateEq, _, _, _, atBoth, _⟩ :=
    (admission_rests_on_both_instants 2 0 "order-0001" none none 10 20 11
      sampleHeldDatabase).1 admission final committed isNew
  obtain rfl : checkout = sampleCheckout := List.mem_singleton.mp checkoutMem
  obtain rfl : sampleMandate = mandate := Option.some.inj mandateEq
  exact ⟨(atBoth 20 (by simp)).1,
    (admission_rests_on_both_instants 2 0 "order-0001" none none 10 950 11
      sampleHeldDatabase).2.1⟩

end Sample

end AgentRank.Payments
