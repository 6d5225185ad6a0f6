import AgentRank.Payments.Ledger

/-!
# The life of one attempt

An attempt is admitted, dispatched, perhaps clouded, and settled.  A movement of the
ledger admits one attempt or takes one attempt one step further, and nothing else
changes the table.  Whatever those two keep, every run keeps.
-/

namespace AgentRank.Payments

open Checkout Inventory Relational Store

variable {status : PaymentAttemptStatus}

theorem isOpen_of_isDispatched (isDispatched : status.isDispatched = true) :
    status.isOpen = true := by
  cases status with
  | inFlight | unknown => rfl
  | admitted | succeeded | failed => cases isDispatched

theorem not_admitted_of_isDispatched (isDispatched : status.isDispatched = true) :
    status ≠ .admitted := by
  rintro rfl
  cases isDispatched

theorem not_succeeded_of_isOpen (isOpen : status.isOpen = true) : status ≠ .succeeded := by
  rintro rfl
  cases isOpen

/-- A row that says something else about the same payment. -/
structure SamePayment (row attempt : PaymentAttempt) : Prop where
  id : row.id = attempt.id
  merchantId : row.merchantId = attempt.merchantId
  checkoutId : row.checkoutId = attempt.checkoutId
  mandateId : row.mandateId = attempt.mandateId
  reservationId : row.reservationId = attempt.reservationId
  idempotencyKey : row.idempotencyKey = attempt.idempotencyKey

/-! ## One step -/

/-- One step of the life of an attempt. -/
inductive Advances (transactionTime : Instant) (attempt : PaymentAttempt) :
    PaymentAttempt → Prop
  | dispatched (isAdmitted : attempt.status = .admitted) :
      Advances transactionTime attempt (dispatchedRow attempt transactionTime)
  | clouded (source : OutcomeSource) (inFlight : attempt.status = .inFlight) :
      Advances transactionTime attempt (unknownRow attempt source)
  | succeeded (reference : String) (source : OutcomeSource)
      (isDispatched : attempt.status.isDispatched = true) :
      Advances transactionTime attempt
        (succeededRow attempt reference source transactionTime)
  | failed (failureCode : String) (reference : Option String) (source : OutcomeSource)
      (isDispatched : attempt.status.isDispatched = true) :
      Advances transactionTime attempt
        (failedRow attempt failureCode reference source transactionTime)

namespace Advances

variable {transactionTime : Instant} {attempt row : PaymentAttempt}

/-- A step rewrites one attempt into the same payment. -/
theorem same (advances : Advances transactionTime attempt row) : SamePayment row attempt := by
  cases advances with
  | dispatched | clouded | succeeded | failed => exact ⟨rfl, rfl, rfl, rfl, rfl, rfl⟩

/-- Only an open attempt takes a step. -/
theorem wasOpen (advances : Advances transactionTime attempt row) :
    attempt.status.isOpen = true := by
  cases advances with
  | dispatched isAdmitted =>
      rw [isAdmitted]
      rfl
  | clouded source inFlight =>
      rw [inFlight]
      rfl
  | succeeded reference source isDispatched => exact isOpen_of_isDispatched isDispatched
  | failed failureCode reference source isDispatched =>
      exact isOpen_of_isDispatched isDispatched

/-- No step leads back to where no provider can have been called. -/
theorem notAdmitted (advances : Advances transactionTime attempt row) :
    row.status ≠ .admitted := by
  cases advances with
  | dispatched | clouded | succeeded | failed => nofun

end Advances

/-- A fresh attempt, and what the table said when it joined. -/
structure Joins (attempts : Table PaymentAttempt) (row : PaymentAttempt) : Prop where
  isNew : ∃ checkout reservation idempotencyKey attemptId,
    row = newAttempt checkout reservation idempotencyKey attemptId
  identityFree : ∀ attempt ∈ attempts, attempt.checkoutId = row.checkoutId →
    attempt.idempotencyKey ≠ row.idempotencyKey
  noneOpen : ∀ attempt ∈ attempts, attempt.mandateId = row.mandateId →
    attempt.status.isOpen = false
  unspent : ∀ attempt ∈ attempts, attempt.mandateId = row.mandateId →
    attempt.status ≠ .succeeded

variable {attempts : Table PaymentAttempt} {row : PaymentAttempt}

theorem Joins.isAdmitted (joins : Joins attempts row) : row.status = .admitted := by
  obtain ⟨_, _, _, _, rfl⟩ := joins.isNew
  rfl

/-- What one movement can do to the attempts. -/
inductive AttemptStep (transactionTime : Instant) (attempts : Table PaymentAttempt) :
    Table PaymentAttempt → Prop
  | untouched : AttemptStep transactionTime attempts attempts
  | joined (row : PaymentAttempt) (result : Table PaymentAttempt)
      (joins : Joins attempts row) (inserted : attempts.insert? row = some result) :
      AttemptStep transactionTime attempts result
  | advanced (attempt row : PaymentAttempt) (member : attempt ∈ attempts)
      (advances : Advances transactionTime attempt row) :
      AttemptStep transactionTime attempts (attempts.set row)

/-- Every movement of the ledger takes the attempts at most one step. -/
theorem Movement.attemptStep {allowance : Allowance} {clock : Readings}
    {ledger next : Ledger} (movement : Movement allowance clock ledger next) :
    AttemptStep clock.transactionTime ledger.attempts next.attempts := by
  cases movement with
  | untouched | restocked | quoted | reserved | disputed | withdrawn | released =>
      exact AttemptStep.untouched
  | admitted checkout reservation key attemptId attempts member isOpen hasLines held names
      holding effective identityFree noneOpen unspent inserted =>
      exact AttemptStep.joined _ attempts
        ⟨⟨checkout, reservation, key, attemptId, rfl⟩, identityFree, noneOpen, unspent⟩ inserted
  | dispatched attempt member isAdmitted =>
      exact AttemptStep.advanced attempt _ member (Advances.dispatched isAdmitted)
  | clouded attempt source member inFlight =>
      exact AttemptStep.advanced attempt _ member (Advances.clouded source inFlight)
  | succeeded attempt checkout reservation reference source paidAt consumedAt variants event
      member isDispatched =>
      exact AttemptStep.advanced attempt _ member
        (Advances.succeeded reference source isDispatched)
  | failed attempt reservation failureCode reference source releasedAt event member
      isDispatched =>
      exact AttemptStep.advanced attempt _ member
        (Advances.failed failureCode reference source isDispatched)

namespace AttemptStep

variable {transactionTime : Instant} {attempts next : Table PaymentAttempt}
  {attemptId : Uuid} {attempt row : PaymentAttempt}

/-- A property of single attempts that fresh ones have and steps keep. -/
theorem forall_mem {property : PaymentAttempt → Prop}
    (step : AttemptStep transactionTime attempts next)
    (joined : ∀ row, Joins attempts row → property row)
    (advanced : ∀ attempt row, Advances transactionTime attempt row → property attempt →
      property row)
    (before : ∀ attempt ∈ attempts, property attempt) : ∀ row ∈ next, property row := by
  cases step with
  | untouched => exact before
  | joined fresh result joins inserted =>
      intro row member
      rcases (Table.mem_insert?_iff inserted).mp member with old | rfl
      · exact before row old
      · exact joined row joins
  | advanced attempt written member advances =>
      intro row rowMem
      rcases (Table.mem_set_iff_ne member advances.same.id.symm).mp rowMem with rfl | ⟨old, _⟩
      · exact advanced attempt row advances (before attempt member)
      · exact before row old

/-- An attempt is never lost: it stays, or it takes one step. -/
theorem get?_of_some (step : AttemptStep transactionTime attempts next)
    (found : attempts.get? attemptId = some attempt) :
    ∃ row, next.get? attemptId = some row ∧
      (row = attempt ∨ Advances transactionTime attempt row) := by
  obtain ⟨member, sameId⟩ := Table.get?_eq_some_iff.mp found
  cases step with
  | untouched => exact ⟨attempt, found, Or.inl rfl⟩
  | joined fresh result joins inserted =>
      refine ⟨attempt, Table.get?_eq_some_iff.mpr ⟨?_, sameId⟩, Or.inl rfl⟩
      exact (Table.mem_insert?_iff inserted).mpr (Or.inl member)
  | advanced moved written movedMem advances =>
      by_cases isMoved : attempt = moved
      · subst isMoved
        refine ⟨written, Table.get?_eq_some_iff.mpr ⟨?_, ?_⟩, Or.inr advances⟩
        · exact (Table.mem_set_iff_ne movedMem advances.same.id.symm).mpr (Or.inl rfl)
        · exact advances.same.id.trans sameId
      · refine ⟨attempt, Table.get?_eq_some_iff.mpr ⟨?_, sameId⟩, Or.inl rfl⟩
        exact (Table.mem_set_iff_ne movedMem advances.same.id.symm).mpr
          (Or.inr ⟨member, isMoved⟩)

/-- A settled attempt stays as it is. -/
theorem get?_of_terminal (step : AttemptStep transactionTime attempts next)
    (found : attempts.get? attemptId = some attempt)
    (isTerminal : attempt.status.isTerminal = true) :
    next.get? attemptId = some attempt := by
  obtain ⟨row, foundNext, rfl | advances⟩ := step.get?_of_some found
  · exact foundNext
  · have wasOpen := advances.wasOpen
    cases status : attempt.status with
    | admitted | inFlight | unknown =>
        rw [status] at isTerminal
        cases isTerminal
    | succeeded | failed =>
        rw [status] at wasOpen
        cases wasOpen

end AttemptStep

/-- What the columns of an attempt say agrees with its status: an open one carries no
failure, and a dispatched one says when that was. -/
structure Marked (attempt : PaymentAttempt) : Prop where
  unfailed : attempt.status.isOpen = true → attempt.failureCode = none
  timed : attempt.status ≠ .admitted → attempt.dispatchedAt.isSome = true

theorem Joins.marked (joins : Joins attempts row) : Marked row := by
  obtain ⟨_, _, _, _, rfl⟩ := joins.isNew
  exact ⟨fun _ => rfl, fun notAdmitted => absurd rfl notAdmitted⟩

variable {transactionTime : Instant}

theorem Advances.marked {attempt : PaymentAttempt}
    (advances : Advances transactionTime attempt row) (marked : Marked attempt) :
    Marked row := by
  have unfailed := marked.unfailed advances.wasOpen
  cases advances with
  | dispatched => exact ⟨fun _ => unfailed, fun _ => rfl⟩
  | clouded source inFlight =>
      exact ⟨fun _ => unfailed, fun _ => marked.timed (by rw [inFlight]; nofun)⟩
  | succeeded reference source isDispatched =>
      exact ⟨nofun, fun _ => marked.timed (not_admitted_of_isDispatched isDispatched)⟩
  | failed failureCode reference source isDispatched =>
      exact ⟨nofun, fun _ => marked.timed (not_admitted_of_isDispatched isDispatched)⟩

variable {next : Table PaymentAttempt}

/-- Every attempt keeps its columns in agreement. -/
theorem AttemptStep.marked (step : AttemptStep transactionTime attempts next)
    (before : ∀ attempt ∈ attempts, Marked attempt) : ∀ row ∈ next, Marked row :=
  step.forall_mem (fun _ => Joins.marked) (fun _ _ => Advances.marked) before

/-- A checkout and a key name at most one attempt. -/
def OneIdentity (attempts : Table PaymentAttempt) : Prop :=
  ∀ first ∈ attempts, ∀ second ∈ attempts, first.checkoutId = second.checkoutId →
    first.idempotencyKey = second.idempotencyKey → first = second

/-- No step gives an identity a second attempt. -/
theorem AttemptStep.oneIdentity (step : AttemptStep transactionTime attempts next)
    (before : OneIdentity attempts) : OneIdentity next := by
  cases step with
  | untouched => exact before
  | joined row result joins inserted =>
      intro first firstMem second secondMem sameCheckout sameKey
      rcases (Table.mem_insert?_iff inserted).mp firstMem with firstOld | rfl <;>
        rcases (Table.mem_insert?_iff inserted).mp secondMem with secondOld | rfl
      · exact before first firstOld second secondOld sameCheckout sameKey
      · exact absurd sameKey (joins.identityFree first firstOld sameCheckout)
      · exact absurd sameKey.symm (joins.identityFree second secondOld sameCheckout.symm)
      · rfl
  | advanced attempt row member advances =>
      have same := advances.same
      intro first firstMem second secondMem sameCheckout sameKey
      rcases (Table.mem_set_iff_ne member same.id.symm).mp firstMem with
          rfl | ⟨firstOld, firstOther⟩ <;>
        rcases (Table.mem_set_iff_ne member same.id.symm).mp secondMem with
          rfl | ⟨secondOld, secondOther⟩
      · rfl
      · have other := before attempt member second secondOld
          (same.checkoutId.symm.trans sameCheckout) (same.idempotencyKey.symm.trans sameKey)
        exact absurd other.symm secondOther
      · have other := before first firstOld attempt member
          (sameCheckout.trans same.checkoutId) (sameKey.trans same.idempotencyKey)
        exact absurd other firstOther
      · exact before first firstOld second secondOld sameCheckout sameKey

/-! ## One sale for one mandate -/

/-- One mandate buys once: at most one attempt under it is open, none is open beside a
success, and at most one succeeded. -/
structure OneSale (attempts : Table PaymentAttempt) : Prop where
  openUnique : ∀ first ∈ attempts, ∀ second ∈ attempts,
    first.mandateId = second.mandateId → first.status.isOpen = true →
      second.status.isOpen = true → first = second
  openUnspent : ∀ first ∈ attempts, ∀ second ∈ attempts,
    first.mandateId = second.mandateId → first.status.isOpen = true →
      second.status ≠ .succeeded
  succeededUnique : ∀ first ∈ attempts, ∀ second ∈ attempts,
    first.mandateId = second.mandateId → first.status = .succeeded →
      second.status = .succeeded → first = second

namespace OneSale

variable {attempts : Table PaymentAttempt} {row attempt : PaymentAttempt}

/-- Rewriting an attempt keeps the rule when it opens nothing, and spends the mandate
only where it was being spent already. -/
theorem set (oneSale : OneSale attempts) (member : attempt ∈ attempts)
    (same : SamePayment row attempt)
    (opensNothing : row.status.isOpen = true → attempt.status.isOpen = true)
    (wasOpen : row.status = .succeeded →
      attempt.status.isOpen = true ∨ attempt.status = .succeeded) :
    OneSale (attempts.set row) := by
  have cases : ∀ {other}, other ∈ attempts.set row →
      other = row ∨ other ∈ attempts ∧ other ≠ attempt :=
    (Table.mem_set_iff_ne member same.id.symm).mp
  refine ⟨?_, ?_, ?_⟩
  · intro first firstMem second secondMem sameMandate firstOpen secondOpen
    rcases cases firstMem with rfl | ⟨firstOld, firstOther⟩ <;>
      rcases cases secondMem with rfl | ⟨secondOld, secondOther⟩
    · rfl
    · have other := oneSale.openUnique _ member _ secondOld
        (same.mandateId.symm.trans sameMandate) (opensNothing firstOpen) secondOpen
      exact absurd other.symm secondOther
    · have other := oneSale.openUnique _ firstOld _ member
        (sameMandate.trans same.mandateId) firstOpen (opensNothing secondOpen)
      exact absurd other firstOther
    · exact oneSale.openUnique _ firstOld _ secondOld sameMandate firstOpen secondOpen
  · intro first firstMem second secondMem sameMandate firstOpen secondSucceeded
    rcases cases firstMem with rfl | ⟨firstOld, firstOther⟩ <;>
      rcases cases secondMem with rfl | ⟨secondOld, secondOther⟩
    · exact not_succeeded_of_isOpen firstOpen secondSucceeded
    · exact oneSale.openUnspent _ member _ secondOld
        (same.mandateId.symm.trans sameMandate) (opensNothing firstOpen) secondSucceeded
    · rcases wasOpen secondSucceeded with stillOpen | spent
      · have other := oneSale.openUnique _ firstOld _ member
          (sameMandate.trans same.mandateId) firstOpen stillOpen
        exact firstOther other
      · exact oneSale.openUnspent _ firstOld _ member (sameMandate.trans same.mandateId)
          firstOpen spent
    · exact oneSale.openUnspent _ firstOld _ secondOld sameMandate firstOpen secondSucceeded
  · intro first firstMem second secondMem sameMandate firstSucceeded secondSucceeded
    rcases cases firstMem with rfl | ⟨firstOld, firstOther⟩ <;>
      rcases cases secondMem with rfl | ⟨secondOld, secondOther⟩
    · rfl
    · rcases wasOpen firstSucceeded with stillOpen | spent
      · exact absurd secondSucceeded
          (oneSale.openUnspent _ member _ secondOld
            (same.mandateId.symm.trans sameMandate) stillOpen)
      · have other := oneSale.succeededUnique _ member _ secondOld
          (same.mandateId.symm.trans sameMandate) spent secondSucceeded
        exact absurd other.symm secondOther
    · rcases wasOpen secondSucceeded with stillOpen | spent
      · exact absurd firstSucceeded
          (oneSale.openUnspent _ member _ firstOld
            (same.mandateId.symm.trans sameMandate.symm) stillOpen)
      · have other := oneSale.succeededUnique _ firstOld _ member
          (sameMandate.trans same.mandateId) firstSucceeded spent
        exact absurd other firstOther
    · exact oneSale.succeededUnique _ firstOld _ secondOld sameMandate firstSucceeded
        secondSucceeded

/-- An open attempt may join when the mandate neither has one nor was spent. -/
theorem insert (oneSale : OneSale attempts) {result : Table PaymentAttempt}
    (isOpen : row.status.isOpen = true)
    (noneOpen : ∀ attempt ∈ attempts, attempt.mandateId = row.mandateId →
      attempt.status.isOpen = false)
    (unspent : ∀ attempt ∈ attempts, attempt.mandateId = row.mandateId →
      attempt.status ≠ .succeeded)
    (inserted : attempts.insert? row = some result) : OneSale result := by
  have cases : ∀ {other}, other ∈ result → other ∈ attempts ∨ other = row :=
    fun otherMem => (Table.mem_insert?_iff inserted).mp otherMem
  refine ⟨?_, ?_, ?_⟩
  · intro first firstMem second secondMem sameMandate firstOpen secondOpen
    rcases cases firstMem with firstOld | rfl <;> rcases cases secondMem with secondOld | rfl
    · exact oneSale.openUnique _ firstOld _ secondOld sameMandate firstOpen secondOpen
    · rw [noneOpen first firstOld sameMandate] at firstOpen
      cases firstOpen
    · rw [noneOpen second secondOld sameMandate.symm] at secondOpen
      cases secondOpen
    · rfl
  · intro first firstMem second secondMem sameMandate firstOpen secondSucceeded
    rcases cases firstMem with firstOld | rfl <;> rcases cases secondMem with secondOld | rfl
    · exact oneSale.openUnspent _ firstOld _ secondOld sameMandate firstOpen secondSucceeded
    · exact not_succeeded_of_isOpen isOpen secondSucceeded
    · exact unspent second secondOld sameMandate.symm secondSucceeded
    · exact not_succeeded_of_isOpen isOpen secondSucceeded
  · intro first firstMem second secondMem sameMandate firstSucceeded secondSucceeded
    rcases cases firstMem with firstOld | rfl <;> rcases cases secondMem with secondOld | rfl
    · exact oneSale.succeededUnique _ firstOld _ secondOld sameMandate firstSucceeded
        secondSucceeded
    · exact absurd secondSucceeded (not_succeeded_of_isOpen isOpen)
    · exact absurd firstSucceeded (not_succeeded_of_isOpen isOpen)
    · rfl

end OneSale

/-- No step makes a mandate buy twice. -/
theorem AttemptStep.oneSale (step : AttemptStep transactionTime attempts next)
    (before : OneSale attempts) :
    OneSale next := by
  cases step with
  | untouched => exact before
  | joined row result joins inserted =>
      refine before.insert ?_ joins.noneOpen joins.unspent inserted
      rw [joins.isAdmitted]
      rfl
  | advanced attempt row member advances =>
      exact before.set member advances.same (fun _ => advances.wasOpen)
        fun _ => Or.inl advances.wasOpen

end AgentRank.Payments
