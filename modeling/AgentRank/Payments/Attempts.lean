import AgentRank.Store.Session

/-!
# Payment attempts

This module models `payments/repository.py` and the format rule of
`payments/rules.py`: finding attempts, admitting one, and the transitions one
attempt can take.

The table restates the rules its indexes and checks enforce: one attempt per
checkout and key, one open and one successful attempt per mandate, one
successful attempt per checkout, and a reference that fits its column.
-/

namespace AgentRank.Payments

open Constraints Relational Store Transaction

def isKeyLetter (char : Char) : Bool :=
  ('A' ≤ char && char ≤ 'Z') || ('a' ≤ char && char ≤ 'z') || ('0' ≤ char && char ≤ '9')

/-- `IDEMPOTENCY_KEY_PATTERN`: a letter or digit, then seven to sixty three of
letters, digits and `_.:-`. -/
def isIdempotencyKey (key : String) : Bool :=
  match key.toList with
  | [] => false
  | first :: rest =>
      isKeyLetter first && decide (7 ≤ rest.length) && decide (rest.length ≤ 63) &&
        rest.all fun char =>
          isKeyLetter char || char == '_' || char == '.' || char == ':' || char == '-'

/-- `validate_idempotency_key`. -/
def validateIdempotencyKey (key : String) : Except ValueError Unit :=
  if isIdempotencyKey key then .ok ()
  else
    .error
      { message :=
          "an idempotency key is 8 to 64 characters of letters, digits and _.:-, got "
        got := some (.string key) }

/-- The attempt a logical payment operation already produced, if any. -/
def findByIdentity (database : Database) (checkoutId : Uuid) (idempotencyKey : String) :
    Option PaymentAttempt :=
  database.attempts.rows.find? fun attempt =>
    attempt.checkoutId == checkoutId && attempt.idempotencyKey == idempotencyKey

/-- The one unresolved attempt under a mandate, if there is one. -/
def openForMandate (database : Database) (mandateId : Uuid) : Option PaymentAttempt :=
  database.attempts.rows.find? fun attempt =>
    attempt.mandateId == mandateId && attempt.status.isOpen

/-- The one unresolved attempt for a checkout, if there is one. -/
def openForCheckout (database : Database) (checkoutId : Uuid) : Option PaymentAttempt :=
  database.attempts.rows.find? fun attempt =>
    attempt.checkoutId == checkoutId && attempt.status.isOpen

/-- The one successful payment that consumed a mandate, if there is one. -/
def succeededForMandate (database : Database) (mandateId : Uuid) :
    Option PaymentAttempt :=
  database.attempts.rows.find? fun attempt =>
    attempt.mandateId == mandateId && attempt.status == .succeeded

/-- The one successful payment for a checkout, if there is one. -/
def succeededForCheckout (database : Database) (checkoutId : Uuid) :
    Option PaymentAttempt :=
  database.attempts.rows.find? fun attempt =>
    attempt.checkoutId == checkoutId && attempt.status == .succeeded

variable {database : Database} {attempt : PaymentAttempt}

theorem findByIdentity_eq_some {checkoutId : Uuid} {idempotencyKey : String}
    (found : findByIdentity database checkoutId idempotencyKey = some attempt) :
    attempt ∈ database.attempts ∧ attempt.checkoutId = checkoutId ∧
      attempt.idempotencyKey = idempotencyKey := by
  have matched := List.find?_some found
  rw [Bool.and_eq_true, beq_iff_eq, beq_iff_eq] at matched
  exact ⟨List.mem_of_find?_eq_some found, matched⟩

theorem findByIdentity_eq_none_iff {checkoutId : Uuid} {idempotencyKey : String} :
    findByIdentity database checkoutId idempotencyKey = none ↔
      ∀ attempt ∈ database.attempts, attempt.checkoutId = checkoutId →
        attempt.idempotencyKey ≠ idempotencyKey := by
  simp [findByIdentity, List.find?_eq_none, Table.mem_def]

theorem openForMandate_eq_none_iff {mandateId : Uuid} :
    openForMandate database mandateId = none ↔
      ∀ attempt ∈ database.attempts, attempt.mandateId = mandateId →
        attempt.status.isOpen = false := by
  simp [openForMandate, List.find?_eq_none, Table.mem_def]

theorem openForCheckout_eq_none_iff {checkoutId : Uuid} :
    openForCheckout database checkoutId = none ↔
      ∀ attempt ∈ database.attempts, attempt.checkoutId = checkoutId →
        attempt.status.isOpen = false := by
  simp [openForCheckout, List.find?_eq_none, Table.mem_def]

theorem succeededForMandate_eq_none_iff {mandateId : Uuid} :
    succeededForMandate database mandateId = none ↔
      ∀ attempt ∈ database.attempts, attempt.mandateId = mandateId →
        attempt.status ≠ .succeeded := by
  simp [succeededForMandate, List.find?_eq_none, Table.mem_def]

/-! ## What the table refuses -/

/-- A text that fits a column of this width: PostgreSQL stores no NUL. -/
def fitsColumn (text : String) (width : Nat) : Bool :=
  decide (text.length ≤ width) && text.toList.all fun char => char != '\x00'

/-- A provider reference the table accepts: at most 128 characters, not all of
them blanks. -/
def isStorableReference (reference : String) : Bool :=
  fitsColumn reference 128 && reference.toList.any fun char => char != ' '

/-- Why the table refuses a row as it is written, when it does. -/
def attemptRowRefusal (row : PaymentAttempt) : Option Failure :=
  if row.providerReference.any fun reference => !isStorableReference reference then
    some (.integrityError "ck_payment_attempt_provider_reference")
  else if row.failureCode.any fun code => !fitsColumn code 64 then
    some (.integrityError "ck_payment_attempt_failure_code")
  else none

/-- Whether another row than `row` satisfies a predicate. -/
def anyOther (database : Database) (row : PaymentAttempt)
    (predicate : PaymentAttempt → Bool) : Bool :=
  database.attempts.rows.any fun other => other.id != row.id && predicate other

/-- The partial unique indexes, with the refusal each one is translated to. -/
def attemptIndexRefusal (row : PaymentAttempt) (database : Database) : Option Failure :=
  if anyOther database row fun other =>
      other.checkoutId == row.checkoutId && other.idempotencyKey == row.idempotencyKey then
    some
      (.conflict "payment_already_requested"
        "this checkout already has a payment attempt under that idempotency key"
        (some "checkout") (some (toString row.checkoutId)))
  else if row.status.isOpen && anyOther database row fun other =>
      other.mandateId == row.mandateId && other.status.isOpen then
    some
      (.conflict "payment_in_progress"
        "a payment under this mandate is already in progress"
        (some "mandate") (some (toString row.checkoutId)))
  else if row.status == .succeeded && anyOther database row fun other =>
      other.mandateId == row.mandateId && other.status == .succeeded then
    some
      (.conflict "mandate_already_consumed"
        "a successful payment has already consumed this mandate"
        (some "mandate") (some (toString row.checkoutId)))
  else if row.status == .succeeded && anyOther database row fun other =>
      other.checkoutId == row.checkoutId && other.status == .succeeded then
    some
      (.conflict "checkout_already_paid"
        "this checkout has already been paid"
        (some "checkout") (some (toString row.checkoutId)))
  else none

/-- Write one attempt row that is already stored. -/
def updateAttempt (row : PaymentAttempt) : Session PUnit := do
  Transaction.checking fun _ => attemptRowRefusal row
  Transaction.checking (attemptIndexRefusal row)
  modify fun database => { database with attempts := database.attempts.set row }

/-- `PaymentAttemptRepository.create`, with the flush that inserts the row. -/
def insertAttempt (row : PaymentAttempt) : Session PUnit := do
  Transaction.checking (attemptIndexRefusal row)
  let database ← get
  let attempts ←
    Transaction.require (database.attempts.insert? row)
      (.integrityError "pk_payment_attempt")
  set { database with attempts := attempts }

variable {final : Database} {row : PaymentAttempt} {result : PUnit}

theorem updateAttempt_eq_ok_iff :
    updateAttempt row database = .ok (result, final) ↔
      attemptRowRefusal row = none ∧ attemptIndexRefusal row database = none ∧
        final = { database with attempts := database.attempts.set row } := by
  simp only [updateAttempt, bind_eq_ok_iff, checking_eq_ok_iff,
    modify_eq_ok_iff]
  constructor
  · rintro ⟨_, _, ⟨fits, rfl⟩, _, _, ⟨unique, rfl⟩, rfl⟩
    exact ⟨fits, unique, rfl⟩
  · rintro ⟨fits, unique, rfl⟩
    exact ⟨PUnit.unit, _, ⟨fits, rfl⟩, PUnit.unit, _, ⟨unique, rfl⟩, rfl⟩

theorem insertAttempt_eq_ok_iff :
    insertAttempt row database = .ok (result, final) ↔
      attemptIndexRefusal row database = none ∧
        ∃ attempts, database.attempts.insert? row = some attempts ∧
          final = { database with attempts := attempts } := by
  simp only [insertAttempt, bind_eq_ok_iff, checking_eq_ok_iff,
    get_eq_ok_iff, require_eq_ok_iff, set_eq_ok_iff]
  constructor
  · rintro ⟨_, _, ⟨unique, rfl⟩, _, _, ⟨rfl, rfl⟩, attempts, _, ⟨inserted, rfl⟩, rfl⟩
    exact ⟨unique, attempts, inserted, rfl⟩
  · rintro ⟨unique, attempts, inserted, rfl⟩
    exact ⟨PUnit.unit, _, ⟨unique, rfl⟩, _, _, ⟨rfl, rfl⟩, attempts, _, ⟨inserted, rfl⟩,
      rfl⟩

theorem anyOther_eq_false_iff {predicate : PaymentAttempt → Bool} :
    anyOther database row predicate = false ↔
      ∀ other ∈ database.attempts, other.id ≠ row.id → predicate other = false := by
  simp [anyOther, List.any_eq_false, Table.mem_def]

/-! ## Transitions -/

/-- The row a dispatch writes. -/
def dispatchedRow (attempt : PaymentAttempt) (transactionTime : Instant) : PaymentAttempt :=
  { attempt with status := .inFlight, dispatchedAt := some transactionTime }

/-- `mark_in_flight`. -/
def markInFlight (attempt : PaymentAttempt) (transactionTime : Instant) :
    Session PUnit := do
  Transaction.refuseWhen (attempt.status ≠ .admitted)
    (valueError s!"a {attempt.status.value} attempt cannot be dispatched")
  updateAttempt (dispatchedRow attempt transactionTime)

variable {transactionTime : Instant}

theorem markInFlight_eq_ok
    (committed : markInFlight attempt transactionTime database = .ok (result, final)) :
    attempt.status = .admitted ∧
      final =
        { database with
          attempts := database.attempts.set (dispatchedRow attempt transactionTime) } := by
  simp only [markInFlight, bind_eq_ok_iff, refuseWhen_eq_ok_iff,
    updateAttempt_eq_ok_iff] at committed
  obtain ⟨_, _, ⟨admitted, rfl⟩, _, _, rfl⟩ := committed
  exact ⟨not_not.mp admitted, rfl⟩

/-- `_require_dispatched`. -/
def requireDispatched (attempt : PaymentAttempt) (verb : String) : Session PUnit :=
  Transaction.refuseWhen (attempt.status.isDispatched = false)
    (valueError s!"a {attempt.status.value} attempt cannot {verb}")

/-- The row a definitive success writes. -/
def succeededRow (attempt : PaymentAttempt) (reference : String) (source : OutcomeSource)
    (transactionTime : Instant) : PaymentAttempt :=
  { attempt with
    status := .succeeded
    providerReference := some reference
    outcomeSource := some source
    resolvedAt := some transactionTime }

/-- The row a definitive failure writes. -/
def failedRow (attempt : PaymentAttempt) (failureCode : String)
    (reference : Option String) (source : OutcomeSource) (transactionTime : Instant) :
    PaymentAttempt :=
  { attempt with
    status := .failed
    failureCode := some failureCode
    providerReference := reference
    outcomeSource := some source
    resolvedAt := some transactionTime }

/-- The row an ambiguous result writes. -/
def unknownRow (attempt : PaymentAttempt) (source : OutcomeSource) : PaymentAttempt :=
  { attempt with status := .unknown, outcomeSource := some source }

/-- `mark_succeeded`, for an attempt that has not succeeded already. -/
def markSucceeded (attempt : PaymentAttempt) (reference : String)
    (source : OutcomeSource) (transactionTime : Instant) : Session PUnit := do
  requireDispatched attempt "succeed"
  updateAttempt (succeededRow attempt reference source transactionTime)

/-- `mark_failed`, for an attempt that has not failed already. -/
def markFailed (attempt : PaymentAttempt) (failureCode : String)
    (reference : Option String) (source : OutcomeSource) (transactionTime : Instant) :
    Session PUnit := do
  requireDispatched attempt "fail"
  updateAttempt (failedRow attempt failureCode reference source transactionTime)

/-- `mark_unknown`, for an attempt that is not unknown already. -/
def markUnknown (attempt : PaymentAttempt) (source : OutcomeSource) : Session PUnit := do
  requireDispatched attempt "become unknown"
  updateAttempt (unknownRow attempt source)

variable {source : OutcomeSource}

theorem markSucceeded_eq_ok {reference : String}
    (committed : markSucceeded attempt reference source transactionTime database =
      .ok (result, final)) :
    attempt.status.isDispatched = true ∧
      final =
        { database with
          attempts :=
            database.attempts.set (succeededRow attempt reference source transactionTime) } := by
  simp only [markSucceeded, requireDispatched, bind_eq_ok_iff,
    refuseWhen_eq_ok_iff, updateAttempt_eq_ok_iff] at committed
  obtain ⟨_, _, ⟨dispatched, rfl⟩, _, _, rfl⟩ := committed
  exact ⟨Bool.eq_true_of_not_eq_false dispatched, rfl⟩

/-- A success is written when the row fits and the indexes have room for it. -/
theorem markSucceeded_of_accepted {reference : String}
    (isDispatched : attempt.status.isDispatched = true)
    (fits : attemptRowRefusal (succeededRow attempt reference source transactionTime) = none)
    (unique : attemptIndexRefusal (succeededRow attempt reference source transactionTime)
      database = none) :
    markSucceeded attempt reference source transactionTime database =
      .ok (PUnit.unit,
        { database with
          attempts :=
            database.attempts.set
              (succeededRow attempt reference source transactionTime) }) := by
  refine bind_eq_ok_iff.mpr ⟨PUnit.unit, database, ?_, ?_⟩
  · refine refuseWhen_eq_ok_iff.mpr ⟨?_, rfl⟩
    rw [isDispatched]
    exact Bool.noConfusion
  · exact updateAttempt_eq_ok_iff.mpr ⟨fits, unique, rfl⟩

theorem markFailed_eq_ok {failureCode : String} {reference : Option String}
    (committed : markFailed attempt failureCode reference source transactionTime database =
      .ok (result, final)) :
    attempt.status.isDispatched = true ∧
      final =
        { database with
          attempts :=
            database.attempts.set
              (failedRow attempt failureCode reference source transactionTime) } := by
  simp only [markFailed, requireDispatched, bind_eq_ok_iff,
    refuseWhen_eq_ok_iff, updateAttempt_eq_ok_iff] at committed
  obtain ⟨_, _, ⟨dispatched, rfl⟩, _, _, rfl⟩ := committed
  exact ⟨Bool.eq_true_of_not_eq_false dispatched, rfl⟩

theorem markUnknown_eq_ok (committed : markUnknown attempt source database = .ok (result, final)) :
    attempt.status.isDispatched = true ∧
      final =
        { database with attempts := database.attempts.set (unknownRow attempt source) } := by
  simp only [markUnknown, requireDispatched, bind_eq_ok_iff,
    refuseWhen_eq_ok_iff, updateAttempt_eq_ok_iff] at committed
  obtain ⟨_, _, ⟨dispatched, rfl⟩, _, _, rfl⟩ := committed
  exact ⟨Bool.eq_true_of_not_eq_false dispatched, rfl⟩

end AgentRank.Payments
