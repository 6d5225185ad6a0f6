import AgentRank.Payments.Recovery

/-!
# The ledger

The ledger is what the checkout, inventory and payment services keep in step: the
quotes, the stock, the holds, the payment attempts, and the outcome events.  A
movement is one thing that can happen to it in one transaction.

The movements are stated over rows alone.  No service, no merchant, no guard and no
clock other than the readings of the transaction appears in them, so an invariant of
the ledger is proved once for each movement, whatever operation causes it.
-/

namespace AgentRank.Payments

open Checkout Inventory Relational Store

/-- What one transaction reads off the clocks: the database clock at its start, the
instant its gates are evaluated at, and the instant at which every lock is held. -/
structure Readings where
  transactionTime : Instant
  evaluatedAt : Instant
  admittedAt : Instant

structure Ledger where
  checkouts : Table CheckoutSession
  variants : Table Variant
  reservations : Table InventoryReservation
  attempts : Table PaymentAttempt
  trail : List AuditEvent

/-- The ledger of a database. -/
def ledgerOf (database : Database) : Ledger where
  checkouts := database.checkouts
  variants := database.variants
  reservations := database.reservations
  attempts := database.attempts
  trail := outcomeTrail database

/-- The units of a variant that are held at an instant. -/
def heldUnits (reservations : Table InventoryReservation) (variantId : Uuid)
    (instant : Instant) : Nat :=
  reservations.total fun reservation =>
    if isEffective reservation instant then unitsOf reservation.lines variantId else 0

/-- The units of a variant that its merchant has. -/
def stockOf (variants : Table Variant) (merchantId variantId : Uuid) : Nat :=
  (findVariant variants merchantId variantId).elim 0 Variant.inventoryQuantity

/-- A checkout that holds no stock. -/
def HoldsNothing (reservations : Table InventoryReservation) (checkoutId : Uuid) : Prop :=
  ∀ reservation ∈ reservations, reservation.checkoutId = checkoutId →
    reservation.status.isHolding = false

/-- A hold that was given back, in place of the one that stood. -/
def releasedRow (reservation : InventoryReservation) (releasedAt : Option Instant) :
    InventoryReservation :=
  { reservation with status := .released, releasedAt := releasedAt }

/-- A hold that was sold, in place of the one that stood. -/
def consumedRow (reservation : InventoryReservation) (consumedAt : Option Instant) :
    InventoryReservation :=
  { reservation with status := .consumed, consumedAt := consumedAt }

/-- The one thing that can happen to the hold of a withdrawn checkout. -/
inductive GivesBack (checkoutId : Uuid) (before : Table InventoryReservation) :
    Table InventoryReservation → Prop
  | nothing (none : HoldsNothing before checkoutId) : GivesBack checkoutId before before
  | hold (reservation : InventoryReservation) (releasedAt : Option Instant)
      (member : reservation ∈ before) (names : reservation.checkoutId = checkoutId)
      (holding : reservation.status.isHolding = true) :
      GivesBack checkoutId before (before.set (releasedRow reservation releasedAt))

/-- What the callers of a run restrain themselves to: which holds they give back on
purpose, and how they edit the catalog. -/
structure Allowance where
  releases : InventoryReservation → Prop
  restocks : Table Variant → Table Variant → Prop

/-- One thing that can happen to the ledger in one transaction, within an allowance. -/
inductive Movement (allowance : Allowance) (clock : Readings)
    (ledger : Ledger) : Ledger → Prop
  | untouched : Movement allowance clock ledger ledger
  /-- The catalog changed. -/
  | restocked (variants : Table Variant)
      (allowed : allowance.restocks ledger.variants variants) :
      Movement allowance clock ledger { ledger with variants := variants }
  /-- A quote was made. -/
  | quoted (checkout : CheckoutSession) (checkouts : Table CheckoutSession)
      (isOpen : checkout.status = .isOpen) (isQuote : IsQuote checkout)
      (positive : ∀ line ∈ checkout.lines, 0 < line.quantity)
      (inserted : ledger.checkouts.insert? checkout = some checkouts) :
      Movement allowance clock ledger { ledger with checkouts := checkouts }
  /-- Stock was held for an open quote. -/
  | reserved (checkout : CheckoutSession) (reservationId : Uuid) (expiresAt : Instant)
      (reservations : Table InventoryReservation)
      (member : checkout ∈ ledger.checkouts) (isOpen : checkout.status = .isOpen)
      (none : HoldsNothing ledger.reservations checkout.id)
      (fits : ∀ line ∈ checkout.lines,
        line.quantity + heldUnits ledger.reservations line.variantId clock.evaluatedAt ≤
          stockOf ledger.variants checkout.merchantId line.variantId)
      (inserted :
        ledger.reservations.insert? (newReservation checkout reservationId expiresAt) =
          some reservations) :
      Movement allowance clock ledger { ledger with reservations := reservations }
  /-- A payment was admitted, and the hold of its quote bound to it. -/
  | admitted (checkout : CheckoutSession) (reservation : InventoryReservation)
      (idempotencyKey : String) (attemptId : Uuid) (attempts : Table PaymentAttempt)
      (member : checkout ∈ ledger.checkouts) (isOpen : checkout.status = .isOpen)
      (hasLines : checkout.lines ≠ [])
      (held : reservation ∈ ledger.reservations)
      (names : reservation.checkoutId = checkout.id)
      (holding : reservation.status.isHolding = true)
      (effective : isEffective reservation clock.admittedAt = true)
      (identityFree : ∀ attempt ∈ ledger.attempts, attempt.checkoutId = checkout.id →
        attempt.idempotencyKey ≠ idempotencyKey)
      (noneOpen : ∀ attempt ∈ ledger.attempts, attempt.mandateId = checkout.mandateId →
        attempt.status.isOpen = false)
      (unspent : ∀ attempt ∈ ledger.attempts, attempt.mandateId = checkout.mandateId →
        attempt.status ≠ .succeeded)
      (inserted :
        ledger.attempts.insert? (newAttempt checkout reservation idempotencyKey attemptId) =
          some attempts) :
      Movement allowance clock ledger
        { ledger with
          attempts := attempts
          reservations := ledger.reservations.set { reservation with status := .committed } }
  /-- A provider may now be called. -/
  | dispatched (attempt : PaymentAttempt) (member : attempt ∈ ledger.attempts)
      (isAdmitted : attempt.status = .admitted) :
      Movement allowance clock ledger
        { ledger with
          attempts := ledger.attempts.set (dispatchedRow attempt clock.transactionTime) }
  /-- Nobody knows what a provider did. -/
  | clouded (attempt : PaymentAttempt) (source : OutcomeSource)
      (member : attempt ∈ ledger.attempts) (inFlight : attempt.status = .inFlight) :
      Movement allowance clock ledger
        { ledger with attempts := ledger.attempts.set (unknownRow attempt source) }
  /-- A payment succeeded, and everything that follows from that moved with it. -/
  | succeeded (attempt : PaymentAttempt) (checkout : CheckoutSession)
      (reservation : InventoryReservation) (reference : String) (source : OutcomeSource)
      (paidAt consumedAt : Option Instant) (variants : Table Variant) (event : AuditEvent)
      (member : attempt ∈ ledger.attempts)
      (isDispatched : attempt.status.isDispatched = true)
      (named : checkout ∈ ledger.checkouts) (namedId : checkout.id = attempt.checkoutId)
      (held : reservation ∈ ledger.reservations)
      (heldId : reservation.id = attempt.reservationId)
      (notCancelled : checkout.status ≠ .cancelled)
      (stock : reservation.status = .consumed ∧ variants = ledger.variants ∨
        reservation.status = .committed ∧
          variants = (consumeStock reservation.merchantId ledger.variants reservation.lines).1) :
      Movement allowance clock ledger
        { checkouts := ledger.checkouts.set { checkout with status := .paid, paidAt := paidAt }
          variants := variants
          reservations := ledger.reservations.set (consumedRow reservation consumedAt)
          attempts :=
            ledger.attempts.set (succeededRow attempt reference source clock.transactionTime)
          trail := ledger.trail ++ [event] }
  /-- A payment failed or was abandoned, and its hold went back. -/
  | failed (attempt : PaymentAttempt) (reservation : InventoryReservation)
      (failureCode : String) (reference : Option String) (source : OutcomeSource)
      (releasedAt : Option Instant) (event : AuditEvent)
      (member : attempt ∈ ledger.attempts)
      (isDispatched : attempt.status.isDispatched = true)
      (held : reservation ∈ ledger.reservations)
      (heldId : reservation.id = attempt.reservationId)
      (notConsumed : reservation.status ≠ .consumed) :
      Movement allowance clock ledger
        { ledger with
          reservations := ledger.reservations.set (releasedRow reservation releasedAt)
          attempts :=
            ledger.attempts.set
              (failedRow attempt failureCode reference source clock.transactionTime)
          trail := ledger.trail ++ [event] }
  /-- Two definitive answers disagreed. -/
  | disputed (event : AuditEvent) :
      Movement allowance clock ledger { ledger with trail := ledger.trail ++ [event] }
  /-- A quote was withdrawn, and its hold went back. -/
  | withdrawn (checkout : CheckoutSession) (cancelledAt : Option Instant)
      (reservations : Table InventoryReservation)
      (member : checkout ∈ ledger.checkouts) (unpaid : checkout.status ≠ .paid)
      (noneOpen : ∀ attempt ∈ ledger.attempts, attempt.checkoutId = checkout.id →
        attempt.status.isOpen = false)
      (givesBack : GivesBack checkout.id ledger.reservations reservations) :
      Movement allowance clock ledger
        { ledger with
          checkouts :=
            ledger.checkouts.set
              { checkout with status := .cancelled, cancelledAt := cancelledAt }
          reservations := reservations }
  /-- A hold was given back on purpose. -/
  | released (reservation : InventoryReservation) (releasedAt : Option Instant)
      (held : reservation ∈ ledger.reservations)
      (holding : reservation.status.isHolding = true) (allowed : allowance.releases reservation) :
      Movement allowance clock ledger
        { ledger with
          reservations := ledger.reservations.set (releasedRow reservation releasedAt) }

end AgentRank.Payments
