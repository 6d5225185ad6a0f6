import AgentRank.Payments.Soundness

/-!
# What every run of the payment services keeps

From an empty payment history, whatever the services do in whatever order, the rows of
a payment stay in step, and a provider success can always be recorded.  A committed
hold goes back only with the failure of the payment it is bound to, as long as nobody
gives it back on purpose.
-/

namespace AgentRank.Payments

open Checkout Inventory Relational Store Text Transition

/-- Nothing was ever paid: there is no attempt, and no hold bound to one.  A unique
index allows one standing hold for each checkout. -/
structure EmptyPaymentHistory (database : Database) : Prop where
  noAttempt : ∀ attempt, attempt ∉ database.attempts
  unbound : ∀ reservation ∈ database.reservations, Unbound reservation
  oneHold : OneHold database.reservations

/-- The rows of every payment are in step, and the columns of every attempt agree. -/
structure InStep (database : Database) : Prop where
  sound : Sound (ledgerOf database)
  marked : ∀ attempt ∈ database.attempts, Marked attempt
  oneIdentity : OneIdentity database.attempts

theorem EmptyPaymentHistory.inStep {database : Database}
    (empty : EmptyPaymentHistory database) : InStep database where
  sound :=
    { named := fun attempt member => absurd member (empty.noAttempt attempt)
      oneSale :=
        { openUnique := fun attempt member => absurd member (empty.noAttempt attempt)
          openUnspent := fun attempt member => absurd member (empty.noAttempt attempt)
          succeededUnique := fun attempt member => absurd member (empty.noAttempt attempt) }
      committedNamed := fun reservation held isCommitted =>
        absurd isCommitted (empty.unbound reservation held)
      oneHold := empty.oneHold }
  marked := fun attempt member => absurd member (empty.noAttempt attempt)
  oneIdentity := fun attempt member => absurd member (empty.noAttempt attempt)

/-- The reference a provider gave fits its column, when it gave one. -/
def Storable (reference : Option String) : Prop :=
  ∀ text, reference = some text → text.isEmpty = false → isStorableReference text = true

theorem Storable.textOr {reference : Option String} (storable : Storable reference)
    (attempt : PaymentAttempt) :
    isStorableReference (textOr reference (fallbackReference attempt)) = true := by
  cases reference with
  | none => exact fallbackReference_storable attempt
  | some text =>
      cases isEmpty : text.isEmpty with
      | true =>
          simp only [Payments.textOr, isEmpty, if_true]
          exact fallbackReference_storable attempt
      | false =>
          simp only [Payments.textOr, isEmpty]
          exact storable text rfl isEmpty

namespace InStep

variable {database : Database} {attempt : PaymentAttempt}

/-- No index stands in the way of settling an open attempt. -/
theorem succeededRow_unique (inStep : InStep database) (member : attempt ∈ database.attempts)
    (isOpen : attempt.status.isOpen = true) (reference : String) (source : OutcomeSource)
    (transactionTime : Instant) :
    attemptIndexRefusal (succeededRow attempt reference source transactionTime) database =
      none := by
  have unspent : ∀ other ∈ database.attempts, other.mandateId = attempt.mandateId →
      other.status ≠ .succeeded := fun other otherMem sameMandate =>
    inStep.sound.oneSale.openUnspent attempt member other otherMem sameMandate.symm isOpen
  have identityFree :
      (anyOther database (succeededRow attempt reference source transactionTime) fun other =>
        other.checkoutId == attempt.checkoutId &&
          other.idempotencyKey == attempt.idempotencyKey) = false := by
    rw [anyOther_eq_false_iff]
    intro other otherMem otherId
    rw [Bool.and_eq_false_iff, beq_eq_false_iff_ne, beq_eq_false_iff_ne]
    by_contra! taken
    apply otherId
    rw [inStep.oneIdentity other otherMem attempt member taken.1 taken.2]
    rfl
  have mandateFree :
      (anyOther database (succeededRow attempt reference source transactionTime) fun other =>
        other.mandateId == attempt.mandateId && other.status == .succeeded) = false := by
    rw [anyOther_eq_false_iff]
    intro other otherMem _
    rw [Bool.and_eq_false_iff, beq_eq_false_iff_ne, beq_eq_false_iff_ne]
    exact or_iff_not_imp_left.mpr fun sameMandate =>
      unspent other otherMem (not_not.mp sameMandate)
  have checkoutFree :
      (anyOther database (succeededRow attempt reference source transactionTime) fun other =>
        other.checkoutId == attempt.checkoutId && other.status == .succeeded) = false := by
    rw [anyOther_eq_false_iff]
    intro other otherMem _
    rw [Bool.and_eq_false_iff, beq_eq_false_iff_ne, beq_eq_false_iff_ne]
    exact or_iff_not_imp_left.mpr fun sameCheckout =>
      unspent other otherMem
        (inStep.sound.mandate_of_checkout otherMem member (not_not.mp sameCheckout))
  unfold attemptIndexRefusal
  simp only [succeededRow] at identityFree mandateFree checkoutFree ⊢
  simp only [identityFree, mandateFree, checkoutFree]
  rfl

/-- A provider success of a dispatched attempt can be recorded. -/
theorem recordSuccess_commits (inStep : InStep database) (member : attempt ∈ database.attempts)
    (isDispatched : attempt.status.isDispatched = true) {result : ProviderResult}
    (storable : Storable result.reference) (source : OutcomeSource)
    (transactionTime : Instant) :
    ∃ outcome final,
      recordSuccess attempt.id result source transactionTime database =
        .ok (outcome, final) := by
  have isOpen := isOpen_of_isDispatched isDispatched
  obtain ⟨reservation, held, checkout, quoted, stands⟩ := inStep.sound.named attempt member
  have locks : Locks database attempt.id
      { attempt := attempt, checkout := checkout, reservation := reservation } :=
    { attempt := Table.get?_key member
      checkout :=
        findCheckout_eq_some_iff.mpr ⟨quoted, stands.checkoutId, stands.sameMerchant⟩
      reservation := Table.get?_eq_some_iff.mpr ⟨held, stands.reservationId⟩ }
  refine recordSuccess_of_accepted locks stands.hasLines isDispatched ?_ ?_ ?_
    (inStep.succeededRow_unique member isOpen _ _ _)
  · rw [stands.whenOpen isOpen]
    nofun
  · rw [stands.hold, holdStatus_of_isOpen isOpen]
  · have unfailed := (inStep.marked attempt member).unfailed isOpen
    simp [attemptRowRefusal, succeededRow, storable.textOr attempt, unfailed]

end InStep

/-! ## Every run -/

/-- The calls that give no bound hold back on purpose. -/
def SparesBound (database : Database) (call : Operation × Readings) : Prop :=
  call.1.Within sparesBound database

/-- A call that gives a hold back on purpose. -/
def Operation.isRelease : Operation → Bool
  | releaseReservation _ _ _ _ => true
  | _ => false

theorem Operation.sparesBound_of_not_isRelease {call : Operation × Readings}
    (notRelease : call.1.isRelease = false) (database : Database) :
    SparesBound database call := by
  obtain ⟨operation, clock⟩ := call
  cases operation with
  | releaseReservation => cases notRelease
  | outside | editCatalog | createCheckout | prepareExecution | cancelCheckout
  | revokeMandate | admitPayment | beginDispatch | recordExecution | beginReconcile
  | recordQuery | appendReconciled | recordExternalDispatch | applyProviderObservation
  | abandonPaymentAttempt => trivial

section Runs

variable [CaseFolding] [OperationDigest] [PrintableText]

/-- One step keeps the rows in step. -/
theorem InStep.serve {database : Database} {call : Operation × Readings}
    (inStep : InStep database) (spares : SparesBound database call) :
    InStep (serve call database) where
  sound := inStep.sound.movement (serve_movement spares)
  marked := (serve_movement spares).attemptStep.marked inStep.marked
  oneIdentity := (serve_movement spares).attemptStep.oneIdentity inStep.oneIdentity

/-- Every run keeps the rows in step. -/
theorem InStep.run {start : Database} {calls : List (Operation × Readings)}
    (inStep : InStep start) (spares : Guarded Payments.serve SparesBound start calls) :
    InStep (run Payments.serve start calls) :=
  run_invariant (fun _ _ stepped => stepped.serve) inStep spares

/-- In every state the services can reach, an open attempt has its hold bound to it,
its quote open and its mandate unspent, a successful one has its hold sold and its
quote paid, a failed one has its hold given back, and every bound hold is named by
exactly one open attempt.  There a provider success can always be recorded. -/
theorem payment_rows_in_step {start : Database} (empty : EmptyPaymentHistory start)
    {calls : List (Operation × Readings)}
    (noRelease : ∀ call ∈ calls, call.1.isRelease = false) :
    (∀ attempt ∈ (run serve start calls).attempts,
      ∃ reservation checkout,
        (run serve start calls).reservations.get? attempt.reservationId = some reservation ∧
        (run serve start calls).checkouts.get? attempt.checkoutId = some checkout ∧
        (attempt.status.isOpen = true →
          reservation.status = .committed ∧ checkout.status = .isOpen ∧
            ∀ other ∈ (run serve start calls).attempts,
              other.mandateId = attempt.mandateId → other.status ≠ .succeeded) ∧
        (attempt.status = .succeeded →
          reservation.status = .consumed ∧ checkout.status = .paid) ∧
        (attempt.status = .failed → reservation.status = .released)) ∧
    (∀ reservation ∈ (run serve start calls).reservations, reservation.status = .committed →
      ∃! attempt, attempt ∈ (run serve start calls).attempts ∧
        attempt.reservationId = reservation.id ∧ attempt.status.isOpen = true) ∧
    (∀ attempt ∈ (run serve start calls).attempts, attempt.status.isDispatched = true →
      ∀ result source releaseReason transactionTime, result.outcome = .succeeded →
        Storable result.reference →
          ∃ outcome final,
            record attempt.id result source releaseReason transactionTime
              (run serve start calls) = .ok (outcome, final)) := by
  have inStep : InStep (run serve start calls) := by
    apply empty.inStep.run
    apply Guarded.mono _ (guarded_of_forall noRelease)
    intro database call notRelease
    exact Operation.sparesBound_of_not_isRelease notRelease database
  refine ⟨?_, ?_, ?_⟩
  · intro attempt member
    obtain ⟨reservation, held, checkout, quoted, stands⟩ := inStep.sound.named attempt member
    refine ⟨reservation, checkout, Table.get?_eq_some_iff.mpr ⟨held, stands.reservationId⟩,
      Table.get?_eq_some_iff.mpr ⟨quoted, stands.checkoutId⟩, ?_, ?_, ?_⟩
    · intro isOpen
      refine ⟨?_, stands.whenOpen isOpen, ?_⟩
      · rw [stands.hold, holdStatus_of_isOpen isOpen]
      · intro other otherMem sameMandate
        exact inStep.sound.oneSale.openUnspent attempt member other otherMem
          sameMandate.symm isOpen
    · intro isSucceeded
      refine ⟨?_, stands.whenSucceeded isSucceeded⟩
      rw [stands.hold, isSucceeded]
      rfl
    · intro isFailed
      rw [stands.hold, isFailed]
      rfl
  · intro reservation held isCommitted
    obtain ⟨attempt, member, names, isOpen, only⟩ :=
      inStep.sound.committed_existsUnique held isCommitted
    exact ⟨attempt, ⟨member, names, isOpen⟩,
      fun other otherNames => only other otherNames.1 otherNames.2.1⟩
  · intro attempt member isDispatched result source releaseReason transactionTime isSuccess
      storable
    simp only [record, isSuccess]
    exact inStep.recordSuccess_commits member isDispatched storable source transactionTime

/-- The one attempt that a released hold was bound to failed in the same step, and no
open attempt names that hold any more. -/
def ReleasedOnlyByFailure (database next : Database) : Prop :=
  ∀ reservation ∈ database.reservations, reservation.status = .committed →
    ∀ released ∈ next.reservations, released.id = reservation.id →
      released.status = .released →
        (∃! attempt, attempt ∈ database.attempts ∧ attempt.reservationId = reservation.id) ∧
        (∀ attempt ∈ next.attempts, attempt.reservationId = reservation.id →
          attempt.status = .failed) ∧
        ∃ attempt ∈ database.attempts, attempt.reservationId = reservation.id ∧
          attempt.status.isOpen = true ∧
          ∃ row ∈ next.attempts, row.id = attempt.id ∧ row.status = .failed

/-- As long as no bound hold is given back on purpose, whatever takes a committed hold
back fails the one attempt it is bound to. -/
theorem committed_released_only_by_failure {start : Database}
    (empty : EmptyPaymentHistory start) {before after : List (Operation × Readings)}
    {call : Operation × Readings}
    (spares : Guarded serve SparesBound start (before ++ call :: after)) :
    ReleasedOnlyByFailure (run serve start before)
      (serve call (run serve start before)) := by
  have stepped : ∀ database call, InStep database → SparesBound database call →
      ReleasedOnlyByFailure database (serve call database) := by
    intro database call inStep spares reservation held isCommitted released after sameId
      isReleased
    obtain ⟨attempt, member, names, only, isOpen, row, rowMem, rowId, isFailed⟩ :=
      inStep.sound.released_only_by_failure (serve_movement spares) held isCommitted after
        sameId isReleased
    refine ⟨⟨attempt, ⟨member, names⟩, fun other both => only other both.1 both.2⟩, ?_,
      attempt, member, names, isOpen, row, rowMem, rowId, isFailed⟩
    intro other otherMem otherNames
    obtain ⟨sameStatus, _⟩ :=
      (inStep.serve spares).sound.hold_of_names otherMem after (sameId.trans otherNames.symm)
    rw [isReleased] at sameStatus
    cases status : other.status with
    | failed => rfl
    | admitted | inFlight | unknown | succeeded =>
        rw [status] at sameStatus
        cases sameStatus
  exact step_of_run (fun _ _ inStep => inStep.serve) stepped empty.inStep spares

end Runs

/-! ## Sample runs -/

section Sample

local instance runsFolding : CaseFolding := asciiFolding
local instance runsDigest : OperationDigest := ⟨fun _ _ => "sample"⟩
local instance runsPrintable : PrintableText := ⟨fun _ => true⟩

theorem sampleHeldDatabase_empty : EmptyPaymentHistory sampleHeldDatabase where
  noAttempt := Table.not_mem_empty
  unbound reservation held := by
    obtain rfl : reservation = sampleHold := List.mem_singleton.mp held
    nofun
  oneHold first firstMem second secondMem _ _ _ :=
    (List.mem_singleton.mp firstMem).trans (List.mem_singleton.mp secondMem).symm

def sampleClock : Readings where
  transactionTime := 20
  evaluatedAt := 10
  admittedAt := 20

/-- The payment of the sample quote is admitted as attempt 11. -/
def sampleAdmission : Operation × Readings :=
  (.admitPayment 2 0 "order-0001" none none 11, sampleClock)

/-- Attempt 11 is dispatched. -/
def sampleDispatch : Operation × Readings :=
  (.beginDispatch 11 none, sampleClock)

def sampleAdmittedAttempt : PaymentAttempt :=
  newAttempt sampleCheckout sampleHold "order-0001" 11

def sampleAttempt : PaymentAttempt :=
  dispatchedRow sampleAdmittedAttempt 20

/-- The sample payment is admitted and dispatched. -/
def sampleCalls : List (Operation × Readings) :=
  [sampleAdmission, sampleDispatch]

theorem sampleCalls_attempts :
    (run serve sampleHeldDatabase sampleCalls).attempts.rows = [sampleAttempt] := by
  decide +kernel

theorem sampleAttempt_mem : sampleAttempt ∈ (run serve sampleHeldDatabase sampleCalls).attempts := by
  rw [Table.mem_def, sampleCalls_attempts]
  exact List.mem_singleton_self _

theorem sampleCalls_noRelease : ∀ call ∈ sampleCalls, call.1.isRelease = false := by
  decide

theorem payment_rows_in_step_sample :
    ∃ outcome final,
      record sampleAttempt.id { outcome := .succeeded, reference := some "pay_1" } .execution
        .paymentDeclined 30 (run serve sampleHeldDatabase sampleCalls) =
          .ok (outcome, final) := by
  obtain ⟨_, _, recordable⟩ :=
    payment_rows_in_step sampleHeldDatabase_empty sampleCalls_noRelease
  apply recordable sampleAttempt sampleAttempt_mem rfl
  · rfl
  · intro text given _
    cases given
    decide

/-- A reference of one character more than its column holds. -/
def sampleLongReference : String :=
  String.ofList (List.replicate 129 'x')

theorem length_sampleLongReference : sampleLongReference.length = 129 := by
  unfold sampleLongReference
  rw [String.length_ofList, List.length_replicate]

/-- No success with that reference is recorded for the sample attempt. -/
theorem long_reference_refused {database : Database}
    (rows : database.attempts.rows = [sampleAttempt]) :
    ¬∃ outcome final,
      record sampleAttempt.id { outcome := .succeeded, reference := some sampleLongReference }
        .execution .paymentDeclined 30 database = .ok (outcome, final) := by
  rintro ⟨outcome, final, committed⟩
  simp only [record, recordSuccess, Transaction.bind_eq_ok_iff, lockOutcome_eq_ok_iff]
    at committed
  obtain ⟨locked, _, ⟨locks, _, rfl⟩, committed⟩ := committed
  have lockedEq : locked.attempt = sampleAttempt := by
    have member := locks.attemptMem
    rw [Table.mem_def, rows] at member
    exact List.mem_singleton.mp member
  rw [lockedEq] at committed
  have storable := settleSuccess_storable committed
  have notEmpty : sampleLongReference ≠ "" := by
    intro isEmpty
    have length := length_sampleLongReference
    rw [isEmpty] at length
    cases length
  have tooLong : ¬sampleLongReference.length ≤ 128 := by
    rw [length_sampleLongReference]
    omega
  simp [textOr, notEmpty, isStorableReference, fitsColumn, tooLong] at storable

/-- A success whose reference is too long for its column cannot be recorded. -/
theorem long_reference_unrecordable :
    EmptyPaymentHistory sampleHeldDatabase ∧
      (∀ call ∈ sampleCalls, call.1.isRelease = false) ∧
      sampleAttempt ∈ (run serve sampleHeldDatabase sampleCalls).attempts ∧
      sampleAttempt.status = .inFlight ∧
      ¬∃ outcome final,
        record sampleAttempt.id
          { outcome := .succeeded, reference := some sampleLongReference } .execution
            .paymentDeclined 30 (run serve sampleHeldDatabase sampleCalls) =
              .ok (outcome, final) :=
  ⟨sampleHeldDatabase_empty, sampleCalls_noRelease, sampleAttempt_mem, rfl,
    long_reference_refused sampleCalls_attempts⟩

/-- The hold of the sample quote is given back while its payment is admitted. -/
def sampleRelease : Operation × Readings :=
  (.releaseReservation 2 0 none .reservationRecovered, sampleClock)

/-- Giving a bound hold back on purpose leaves its attempt open. -/
theorem committed_released_beside_open_attempt :
    EmptyPaymentHistory sampleHeldDatabase ∧
      ¬ReleasedOnlyByFailure (run serve sampleHeldDatabase [sampleAdmission])
        (serve sampleRelease (run serve sampleHeldDatabase [sampleAdmission])) := by
  have bound : (run serve sampleHeldDatabase [sampleAdmission]).reservations.rows =
      [{ sampleHold with status := .committed }] := by
    decide +kernel
  have freed : (serve sampleRelease
      (run serve sampleHeldDatabase [sampleAdmission])).reservations.rows =
        [releasedRow sampleHold (some 20)] := by
    decide +kernel
  have unresolved : (serve sampleRelease
      (run serve sampleHeldDatabase [sampleAdmission])).attempts.rows =
        [sampleAdmittedAttempt] := by
    decide +kernel
  refine ⟨sampleHeldDatabase_empty, fun onlyByFailure => ?_⟩
  have held := onlyByFailure { sampleHold with status := .committed }
    (by rw [Table.mem_def, bound]; exact List.mem_singleton_self _) rfl
    (releasedRow sampleHold (some 20))
    (by rw [Table.mem_def, freed]; exact List.mem_singleton_self _) rfl rfl
  have isFailed := held.2.1 sampleAdmittedAttempt
    (by rw [Table.mem_def, unresolved]; exact List.mem_singleton_self _) rfl
  cases isFailed

theorem committed_released_only_by_failure_sample :
    ReleasedOnlyByFailure (run serve sampleHeldDatabase sampleCalls)
      (serve (.recordExecution 11 { outcome := .failed }, sampleClock)
        (run serve sampleHeldDatabase sampleCalls)) := by
  have spares : Guarded serve SparesBound sampleHeldDatabase
      (sampleCalls ++ (.recordExecution 11 { outcome := .failed }, sampleClock) :: []) :=
    ⟨trivial, trivial, trivial, trivial⟩
  exact committed_released_only_by_failure sampleHeldDatabase_empty spares

end Sample

end AgentRank.Payments
