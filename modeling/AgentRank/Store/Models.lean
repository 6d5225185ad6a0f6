import AgentRank.Constraints.Rules
import AgentRank.Relational.Table
import AgentRank.Store.Identifiers

/-!
# The rows of the database

This module models the mapped classes of `commerce`, `mandates`, `constraints`,
`checkout`, `inventory`, `payments`, `razorpay`, `benchmark` and `audit`: one
structure per table, with the columns that some modelled function reads or
writes.  A child table that is always loaded and written with its parent
(`checkout_line`, `inventory_reservation_line`, `intent_constraint`) is a list
in the parent row, in the order its rows were written.

Amounts, quantities and stock levels are natural numbers: a check constraint
refuses every negative one.
-/

namespace AgentRank.Store

open Constraints Relational

/-- A timezone aware instant, in microseconds. -/
abbrev Instant := Int

structure Merchant where
  id : Uuid
deriving DecidableEq

structure Product where
  id : Uuid
  category : Option String
  isActive : Bool
deriving DecidableEq

structure Variant where
  id : Uuid
  merchantId : Uuid
  productId : Uuid
  priceAmountMinor : Nat
  currency : String
  inventoryQuantity : Nat
  attributes : Attributes
  isActive : Bool

inductive MandateStatus
  | active
  | revoked
deriving DecidableEq

def MandateStatus.value : MandateStatus → String
  | active => "ACTIVE"
  | revoked => "REVOKED"

/-- One spending authorization.  Everything but the status and its instant is
immutable. -/
structure SpendingMandate where
  id : Uuid
  merchantId : Uuid
  maxTotalAmountMinor : Nat
  currency : String
  maxQuantity : Option Nat
  validFrom : Instant
  validUntil : Instant
  status : MandateStatus
  revokedAt : Option Instant
deriving DecidableEq

/-- One stored rule. -/
structure IntentConstraint where
  id : Uuid
  fields : ConstraintFields
deriving DecidableEq

/-- The hard constraints one mandate is qualified by. -/
structure IntentConstraintSet where
  id : Uuid
  merchantId : Uuid
  mandateId : Uuid
  constraints : List IntentConstraint
deriving DecidableEq

inductive CheckoutStatus
  | isOpen
  | cancelled
  | paid
deriving DecidableEq

def CheckoutStatus.value : CheckoutStatus → String
  | isOpen => "OPEN"
  | cancelled => "CANCELLED"
  | paid => "PAID"

/-- One variant on a quote, as the catalog described it when it was quoted. -/
structure CheckoutLine where
  id : Uuid
  variantId : Uuid
  quantity : Nat
  unitPriceAmountMinor : Nat
  productCategory : Option String
  variantAttributes : Attributes

/-- What one line contributes to the subtotal. -/
def CheckoutLine.lineAmountMinor (line : CheckoutLine) : Nat :=
  line.quantity * line.unitPriceAmountMinor

/-- One merchant quote.  A unique constraint allows one line per variant. -/
structure CheckoutSession where
  id : Uuid
  merchantId : Uuid
  mandateId : Uuid
  currency : String
  subtotalAmountMinor : Nat
  shippingAmountMinor : Nat
  discountAmountMinor : Nat
  totalAmountMinor : Nat
  status : CheckoutStatus
  expiresAt : Instant
  cancelledAt : Option Instant
  paidAt : Option Instant
  lines : List CheckoutLine
  variantsNodup : (lines.map CheckoutLine.variantId).Nodup

inductive ReservationStatus
  | active
  | committed
  | released
  | consumed
deriving DecidableEq

def ReservationStatus.value : ReservationStatus → String
  | active => "ACTIVE"
  | committed => "COMMITTED"
  | released => "RELEASED"
  | consumed => "CONSUMED"

/-- The two statuses under which a reservation is still a claim on stock. -/
def ReservationStatus.isHolding : ReservationStatus → Bool
  | active => true
  | committed => true
  | released => false
  | consumed => false

structure InventoryReservationLine where
  variantId : Uuid
  quantity : Nat
deriving DecidableEq

/-- Stock held for one checkout.  A unique constraint allows one line per
variant. -/
structure InventoryReservation where
  id : Uuid
  merchantId : Uuid
  checkoutId : Uuid
  status : ReservationStatus
  expiresAt : Instant
  releasedAt : Option Instant
  consumedAt : Option Instant
  lines : List InventoryReservationLine
  variantsNodup : (lines.map InventoryReservationLine.variantId).Nodup
deriving DecidableEq

/-- How many units a reservation holds: the sum of the line quantities. -/
def InventoryReservation.totalQuantity (reservation : InventoryReservation) : Nat :=
  (reservation.lines.map InventoryReservationLine.quantity).sum

inductive PaymentAttemptStatus
  | admitted
  | inFlight
  | succeeded
  | failed
  | unknown
deriving DecidableEq

namespace PaymentAttemptStatus

def value : PaymentAttemptStatus → String
  | admitted => "ADMITTED"
  | inFlight => "IN_FLIGHT"
  | succeeded => "SUCCEEDED"
  | failed => "FAILED"
  | unknown => "UNKNOWN"

/-- A definitive answer that nothing will change. -/
def isTerminal : PaymentAttemptStatus → Bool
  | succeeded => true
  | failed => true
  | _ => false

/-- The identity may still reach a provider or is waiting on one. -/
def isOpen : PaymentAttemptStatus → Bool
  | admitted => true
  | inFlight => true
  | unknown => true
  | _ => false

/-- A provider may have been called and has not answered definitively. -/
def isDispatched : PaymentAttemptStatus → Bool
  | inFlight => true
  | unknown => true
  | _ => false

end PaymentAttemptStatus

inductive OutcomeSource
  | execution
  | reconciliation
  | operator
  | interactive
deriving DecidableEq

/-- One payment operation, frozen at the instant it was authorized. -/
structure PaymentAttempt where
  id : Uuid
  merchantId : Uuid
  checkoutId : Uuid
  mandateId : Uuid
  reservationId : Uuid
  idempotencyKey : String
  amountMinor : Nat
  currency : String
  status : PaymentAttemptStatus
  providerReference : Option String
  failureCode : Option String
  outcomeSource : Option OutcomeSource
  dispatchedAt : Option Instant
  resolvedAt : Option Instant
deriving DecidableEq

inductive RazorpayCheckoutStatus
  | preparing
  | awaitingPayment
  | confirmed
deriving DecidableEq

/-- One payment attempt, bound to one Razorpay order. -/
structure RazorpayCheckout where
  id : Uuid
  merchantId : Uuid
  paymentAttemptId : Uuid
  providerReceipt : String
  providerOrderId : Option String
  providerPaymentId : Option String
  amountMinor : Nat
  currency : String
  status : RazorpayCheckoutStatus
  orderCreatedAt : Option Instant
  confirmedAt : Option Instant
deriving DecidableEq

inductive BenchmarkRunStatus
  | pending
  | running
  | completed
  | aborted
deriving DecidableEq

structure BenchmarkRun where
  id : Uuid
  merchantId : Uuid
  status : BenchmarkRunStatus
deriving DecidableEq

/-- The identity of the run a runner or a bound credential acts for. -/
structure BenchmarkRunCapability where
  runId : Uuid
  merchantId : Uuid
deriving DecidableEq

inductive ActorType
  | system
  | buyer
  | paymentProvider
deriving DecidableEq

/-- The event types the modelled services append. -/
inductive EventType
  | mandateCreated
  | mandateRevoked
  | intentConstraintsCreated
  | checkoutCreated
  | checkoutCancelled
  | inventoryReserved
  | inventoryReleased
  | inventoryConsumed
  | inventoryOversold
  | paymentAdmitted
  | paymentSucceeded
  | paymentFailed
  | paymentUnknown
  | paymentReconciled
  | paymentOutcomeConflict
  | paymentAbandoned
  | razorpayOrderCreated
  | razorpayCallbackRejected
  | razorpayPaymentVerified
  | razorpayPaymentConfirmed
deriving DecidableEq

/-- One thing that happened, recorded once and never touched again. -/
structure AuditEvent where
  merchantId : Uuid
  actorType : ActorType
  credentialId : Option Uuid
  eventType : EventType
  resourceType : String
  resourceId : Uuid
  payload : List (String × Json)

namespace Payload

/-- An identifier as a payload writes it: its text. -/
def uuid (id : Uuid) : Json :=
  .scalar (.string (toString id))

def text (value : String) : Json :=
  .scalar (.string value)

def number (value : Nat) : Json :=
  .scalar (.number (.finite value))

/-- An instant as a payload writes it: its text. -/
def instant (value : Instant) : Json :=
  .scalar (.string (toString value))

/-- A text that may be absent. -/
def optionalText : Option String → Json
  | none => .null
  | some value => text value

end Payload

instance : Keyed Merchant Uuid := ⟨Merchant.id⟩
instance : Keyed Product Uuid := ⟨Product.id⟩
instance : Keyed Variant Uuid := ⟨Variant.id⟩
instance : Keyed SpendingMandate Uuid := ⟨SpendingMandate.id⟩
instance : Keyed IntentConstraintSet Uuid := ⟨IntentConstraintSet.id⟩
instance : Keyed CheckoutSession Uuid := ⟨CheckoutSession.id⟩
instance : Keyed InventoryReservation Uuid := ⟨InventoryReservation.id⟩
instance : Keyed PaymentAttempt Uuid := ⟨PaymentAttempt.id⟩
instance : Keyed RazorpayCheckout Uuid := ⟨RazorpayCheckout.id⟩
instance : Keyed BenchmarkRun Uuid := ⟨BenchmarkRun.id⟩

end AgentRank.Store
