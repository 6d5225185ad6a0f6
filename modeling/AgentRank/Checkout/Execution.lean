import AgentRank.Checkout.IntentAuthorization
import AgentRank.Constraints.Request
import AgentRank.Inventory.Reservations

/-!
# Execution preparation

This module models `checkout/execution.py`: deciding both gates while every
relevant row is held, preparing a checkout by reserving its stock, and releasing
a reservation on purpose.

Two instants occur.  `evaluatedAt` is what the gates are decided against;
`admittedAt` is the reading of the clock taken once every lock is held.
-/

namespace AgentRank.Checkout

open Text Constraints Inventory Relational Store Transaction

/-- Whether this checkout may be attempted, and if not, what stopped it. -/
structure CheckoutExecutionReadiness where
  checkoutId : Uuid
  evaluatedAt : Instant
  authorization : CheckoutExecutionAuthorization
  admittedAt : Option Instant := none
  reservation : Option InventoryReservation := none
  inventoryViolations : List InventoryViolation := []

def CheckoutExecutionReadiness.ready (readiness : CheckoutExecutionReadiness) : Bool :=
  readiness.authorization.authorized && readiness.inventoryViolations.isEmpty &&
    match readiness.admittedAt, readiness.reservation with
    | some admittedAt, some reservation => decide (admittedAt < reservation.expiresAt)
    | _, _ => false

/-- Both gates decided while every relevant row is held. -/
structure LockedAuthorization where
  checkout : CheckoutSession
  mandate : SpendingMandate
  evaluatedAt : Instant
  authorization : CheckoutExecutionAuthorization
  admittedAt : Option Instant := none

/-- The instant of an authorization that permits the operation. -/
def LockedAuthorization.admitted (locked : LockedAuthorization) : Option Instant :=
  if locked.authorization.authorized then locked.admittedAt else none

/-- `CheckoutRepository.get`: one merchant's checkout. -/
def findCheckout (database : Database) (checkoutId merchantId : Uuid) :
    Option CheckoutSession :=
  (database.checkouts.get? checkoutId).filter fun checkout =>
    checkout.merchantId == merchantId

variable [CaseFolding]

/-- `CheckoutExecutionService.authorize_under_locks`. -/
def authorizeUnderLocks (checkoutId merchantId : Uuid)
    (evaluatedAt admittedAt : Instant) : Session LockedAuthorization := do
  let database ← get
  let checkout ←
    Transaction.require (findCheckout database checkoutId merchantId)
      (.notFound "checkout" (toString checkoutId))
  let mandate ←
    Transaction.require (findMandate database checkout.mandateId checkout.merchantId)
      (.notFound "mandate" (toString checkout.mandateId))
  let constraintSet :=
    findConstraintSet database checkout.mandateId checkout.merchantId
  let authorization ←
    enforce (authorizeCheckoutExecution checkout mandate constraintSet evaluatedAt)
  if authorization.authorized then do
    lockVariantsFor checkout
    pure
      { checkout := checkout
        mandate := mandate
        evaluatedAt := evaluatedAt
        authorization :=
          authorization.withFinancial (authorizeCheckout checkout mandate admittedAt)
        admittedAt := some admittedAt }
  else
    pure
      { checkout := checkout
        mandate := mandate
        evaluatedAt := evaluatedAt
        authorization := authorization }

/-- `CheckoutExecutionService.prepare_execution`. -/
def prepareExecution (checkoutId merchantId : Uuid)
    (capability : Option BenchmarkRunCapability)
    (evaluatedAt admittedAt transactionTime : Instant) (reservationId : Uuid) :
    Session CheckoutExecutionReadiness := do
  requireAllowed merchantId capability
  let locked ← authorizeUnderLocks checkoutId merchantId evaluatedAt admittedAt
  let refused : CheckoutExecutionReadiness :=
    { checkoutId := checkoutId
      evaluatedAt := evaluatedAt
      authorization := locked.authorization
      admittedAt := locked.admittedAt }
  match locked.admitted with
  | none => pure refused
  | some admittedAt => do
      let before ← get
      let outcome ←
        reserve locked.checkout
          (reservationExpiresAt locked.checkout.expiresAt locked.mandate.validUntil)
          evaluatedAt transactionTime reservationId
      match outcome.reservation, outcome.violations with
      | some reservation, [] =>
          if admittedAt < reservation.expiresAt then
            pure { refused with reservation := some reservation }
          else do
            -- Rolled back: a ready answer never carries a lapsed hold.
            set before
            pure { refused with inventoryViolations := [{ code := .reservationExpired }] }
      | _, violations => do
          set before
          pure { refused with inventoryViolations := violations }

omit [CaseFolding] in
/-- `CheckoutExecutionService.release_reservation`: give back the stock this
checkout is holding, whatever holds it. -/
def releaseReservation (checkoutId merchantId : Uuid)
    (capability : Option BenchmarkRunCapability) (reason : ReleaseReason)
    (transactionTime : Instant) : Session Bool := do
  requireAllowed merchantId capability
  let checkout ←
    Transaction.require (findCheckout (← get) checkoutId merchantId)
      (.notFound "checkout" (toString checkoutId))
  releaseForCheckout checkout.id reason transactionTime

variable {database : Database} {checkoutId merchantId : Uuid}

omit [CaseFolding] in
/-- A checkout is found under its identifier, and for its own merchant only. -/
theorem findCheckout_eq_some_iff {checkout : CheckoutSession} :
    findCheckout database checkoutId merchantId = some checkout ↔
      checkout ∈ database.checkouts ∧ checkout.id = checkoutId ∧
        checkout.merchantId = merchantId := by
  simp only [findCheckout, Option.filter_eq_some_iff, Table.get?_eq_some_iff, beq_iff_eq,
    and_assoc]
  rfl

/-! ## What a committed call decided -/

/-- The conditions under which an operation on a checkout is permitted: both
gates stand when they were evaluated, and the financial one still stands once
every lock is held. -/
structure Permitted (database : Database) (locked : LockedAuthorization)
    (evaluatedAt admittedAt : Instant) : Prop where
  atEvaluation : FinanciallyAuthorized locked.checkout locked.mandate evaluatedAt
  atAdmission : FinanciallyAuthorized locked.checkout locked.mandate admittedAt
  intent : ∃ constraintSet,
    findConstraintSet database locked.checkout.mandateId locked.checkout.merchantId =
        some constraintSet ∧
      IntentSatisfied locked.checkout constraintSet

variable {final : Database}

/-- Locking writes nothing, reports the rows it locked, and admits only what is
permitted. -/
theorem authorizeUnderLocks_eq_ok {evaluatedAt admittedAt : Instant}
    {locked : LockedAuthorization}
    (committed : authorizeUnderLocks checkoutId merchantId evaluatedAt admittedAt database =
      .ok (locked, final)) :
    final = database ∧ locked.evaluatedAt = evaluatedAt ∧
      findCheckout database checkoutId merchantId = some locked.checkout ∧
      findMandate database locked.checkout.mandateId locked.checkout.merchantId =
        some locked.mandate ∧
      ∀ instant, locked.admitted = some instant →
        instant = admittedAt ∧ Permitted database locked evaluatedAt admittedAt := by
  unfold authorizeUnderLocks at committed
  simp only [bind_eq_ok_iff, get_eq_ok_iff,
    require_eq_ok_iff, enforce_eq_ok_iff] at committed
  obtain ⟨_, _, ⟨rfl, rfl⟩, checkout, _, ⟨checkoutEq, rfl⟩, mandate, _, ⟨mandateEq, rfl⟩,
    authorization, _, ⟨authorizationEq, rfl⟩, committed⟩ := committed
  split at committed
  · next authorized =>
      simp only [lockVariantsFor, bind_eq_ok_iff,
        refuseWhen_eq_ok_iff, pure_eq_ok_iff] at committed
      obtain ⟨_, _, ⟨_, rfl⟩, rfl, rfl⟩ := committed
      refine ⟨rfl, rfl, checkoutEq, mandateEq, ?_⟩
      intro instant admitted
      obtain ⟨financial, constraintSet, constraintSetEq, satisfied⟩ :=
        (authorizeCheckoutExecution_authorized_iff _ _ _ _).mp
          ⟨authorization, authorizationEq, authorized⟩
      simp only [LockedAuthorization.admitted] at admitted
      split at admitted
      · next again =>
          simp only [CheckoutExecutionAuthorization.authorized,
            CheckoutExecutionAuthorization.withFinancial, Bool.and_eq_true] at again
          refine ⟨(Option.some.inj admitted).symm, financial, ?_, constraintSet,
            constraintSetEq, satisfied⟩
          exact (authorizeCheckout_allowed_iff _ _ _).mp again.1.2
      · cases admitted
  · next denied =>
      simp only [pure_eq_ok_iff] at committed
      obtain ⟨rfl, rfl⟩ := committed
      refine ⟨rfl, rfl, checkoutEq, mandateEq, ?_⟩
      intro instant admitted
      simp [LockedAuthorization.admitted] at admitted

variable {transactionTime : Instant}

/-- A committed preparation changed nothing, or made one hold for an open checkout
whose lines all fit beside what was already held. -/
theorem prepareExecution_eq_ok {capability : Option BenchmarkRunCapability}
    {evaluatedAt admittedAt : Instant} {reservationId : Uuid}
    {readiness : CheckoutExecutionReadiness}
    (committed : prepareExecution checkoutId merchantId capability evaluatedAt admittedAt
      transactionTime reservationId database = .ok (readiness, final)) :
    final = database ∨
      ∃ checkout expiresAt reservations,
        findCheckout database checkoutId merchantId = some checkout ∧
        checkout.status = .isOpen ∧
        holdingForCheckout database checkout.id = none ∧
        (∀ line ∈ checkout.lines,
          line.quantity + effectiveReserved database line.variantId evaluatedAt ≤
            stockLevel database checkout.merchantId line.variantId) ∧
        database.reservations.insert? (newReservation checkout reservationId expiresAt) =
          some reservations ∧
        final =
          { database with reservations := reservations, auditEvents := final.auditEvents } ∧
        Appends [.inventoryReserved] database final := by
  unfold prepareExecution at committed
  simp only [bind_eq_ok_iff, requireAllowed_eq_ok_iff] at committed
  obtain ⟨_, _, ⟨_, rfl⟩, locked, middle, lockedEq, committed⟩ := committed
  obtain ⟨rfl, _, checkoutEq, _, permitted⟩ := authorizeUnderLocks_eq_ok lockedEq
  cases admitted : locked.admitted with
  | none =>
      rw [admitted] at committed
      exact Or.inl (pure_eq_ok_iff.mp committed).2
  | some instant =>
      rw [admitted] at committed
      simp only [bind_eq_ok_iff, get_eq_ok_iff] at committed
      obtain ⟨_, database, ⟨rfl, rfl⟩, outcome, reserved, reservedEq, committed⟩ := committed
      -- Every branch but the ready one sets the rows back.
      have kept : final = database ∨ final = reserved := by
        rcases outcome with ⟨_ | reservation, _, _ | ⟨violation, violations⟩⟩
        case some.nil =>
          simp only at committed
          split at committed
          · exact Or.inr (pure_eq_ok_iff.mp committed).2
          · simp only [bind_eq_ok_iff, set_eq_ok_iff,
              pure_eq_ok_iff] at committed
            obtain ⟨_, _, rfl, _, rfl⟩ := committed
            exact Or.inl rfl
        all_goals
          simp only [bind_eq_ok_iff, set_eq_ok_iff,
            pure_eq_ok_iff] at committed
          obtain ⟨_, _, rfl, _, rfl⟩ := committed
          exact Or.inl rfl
      rcases kept with rfl | rfl
      · exact Or.inl rfl
      · rcases reserve_eq_ok reservedEq with rfl | ⟨absent, fits, reservations, inserted, finalEq⟩
        · exact Or.inl rfl
        · exact Or.inr ⟨locked.checkout, _, reservations, checkoutEq,
            (permitted instant admitted).2.atEvaluation.checkoutOpen, absent, fits, inserted,
            finalEq⟩

omit [CaseFolding] in
/-- A committed release found nothing to give back, or gave back the hold of the
checkout. -/
theorem releaseForCheckout_eq_ok {reason : ReleaseReason} {changed : Bool}
    (committed : releaseForCheckout checkoutId reason transactionTime database =
      .ok (changed, final)) :
    Appends [.inventoryReleased] database final ∧
      ((holdingForCheckout database checkoutId = none ∧ final = database) ∨
        ∃ reservation releasedAt,
          holdingForCheckout database checkoutId = some reservation ∧
          final =
            { database with
              reservations :=
                database.reservations.set
                  { reservation with status := .released, releasedAt := releasedAt }
              auditEvents := final.auditEvents }) := by
  unfold releaseForCheckout at committed
  simp only [bind_eq_ok_iff, get_eq_ok_iff] at committed
  obtain ⟨_, database, ⟨rfl, rfl⟩, committed⟩ := committed
  cases held : holdingForCheckout database checkoutId with
  | none =>
      rw [held] at committed
      obtain ⟨_, rfl⟩ := pure_eq_ok_iff.mp committed
      exact ⟨Appends.refl _ _, Or.inl ⟨rfl, rfl⟩⟩
  | some reservation =>
      rw [held] at committed
      obtain ⟨member, _, _⟩ := holdingForCheckout_eq_some held
      obtain ⟨_, appends, releasedAt, finalEq⟩ := release_eq_ok member committed
      exact ⟨appends, Or.inr ⟨reservation, releasedAt, rfl, finalEq⟩⟩

omit [CaseFolding] in
/-- A committed `release_reservation` is a committed release for that checkout. -/
theorem releaseReservation_eq_ok {capability : Option BenchmarkRunCapability}
    {reason : ReleaseReason} {changed : Bool}
    (committed : releaseReservation checkoutId merchantId capability reason transactionTime
      database = .ok (changed, final)) :
    Appends [.inventoryReleased] database final ∧
      (final = database ∨
        ∃ reservation releasedAt,
          holdingForCheckout database checkoutId = some reservation ∧
          final =
            { database with
              reservations :=
                database.reservations.set
                  { reservation with status := .released, releasedAt := releasedAt }
              auditEvents := final.auditEvents }) := by
  unfold releaseReservation at committed
  simp only [bind_eq_ok_iff, requireAllowed_eq_ok_iff, get_eq_ok_iff,
    require_eq_ok_iff] at committed
  obtain ⟨_, _, ⟨_, rfl⟩, _, _, ⟨rfl, rfl⟩, checkout, _, ⟨checkoutEq, rfl⟩, committed⟩ :=
    committed
  obtain ⟨_, sameId, _⟩ := findCheckout_eq_some_iff.mp checkoutEq
  rw [sameId] at committed
  obtain ⟨appends, ⟨_, same⟩ | released⟩ := releaseForCheckout_eq_ok committed
  · exact ⟨appends, Or.inl same⟩
  · exact ⟨appends, Or.inr released⟩

end AgentRank.Checkout
