import AgentRank.Store.Models

/-!
# The financial gate

This module models `mandates/validation.py`, `checkout/authorization.py` and
`inventory/rules.py`: pure rules over a mandate, a quote, a hold and one
instant.  Every window is half open: usable at its start, not usable at its end.
-/

namespace AgentRank.Checkout

open Store

inductive MandateViolation
  | mandateNotActive
  | mandateNotYetValid
  | mandateExpired
deriving DecidableEq

/-- Whether a mandate is usable at an instant, as the list of reasons it is
not. -/
def validateMandate (mandate : SpendingMandate) (instant : Instant) :
    List MandateViolation :=
  (if mandate.status ≠ .active then [.mandateNotActive] else []) ++
    if instant < mandate.validFrom then [.mandateNotYetValid]
    else if mandate.validUntil ≤ instant then [.mandateExpired]
    else []

/-! ## The quote -/

inductive CheckoutAuthorizationViolation
  | mandateNotActive
  | mandateNotYetValid
  | mandateExpired
  | checkoutMerchantMismatch
  | checkoutMandateMismatch
  | checkoutNotOpen
  | checkoutExpired
  | currencyMismatch
  | maxTotalExceeded
  | maxQuantityExceeded
deriving DecidableEq

/-- `FROM_MANDATE_VIOLATION`. -/
def fromMandateViolation : MandateViolation → CheckoutAuthorizationViolation
  | .mandateNotActive => .mandateNotActive
  | .mandateNotYetValid => .mandateNotYetValid
  | .mandateExpired => .mandateExpired

/-- The outcome of the financial gate.  Allowing is derived from the violations
rather than stored beside them. -/
structure CheckoutAuthorizationDecision where
  violations : List CheckoutAuthorizationViolation
deriving DecidableEq

def CheckoutAuthorizationDecision.allowed
    (decision : CheckoutAuthorizationDecision) : Bool :=
  decision.violations.isEmpty

/-- How many units a quote covers: the sum of the line quantities. -/
def checkoutQuantity (checkout : CheckoutSession) : Nat :=
  (checkout.lines.map CheckoutLine.quantity).sum

/-- Whether this mandate authorizes this checkout at an instant.  Every reason
is reported, in a fixed order. -/
def authorizeCheckout (checkout : CheckoutSession) (mandate : SpendingMandate)
    (instant : Instant) : CheckoutAuthorizationDecision where
  violations :=
    (validateMandate mandate instant).map fromMandateViolation ++
    (if checkout.merchantId ≠ mandate.merchantId then [.checkoutMerchantMismatch]
      else []) ++
    (if checkout.mandateId ≠ mandate.id then [.checkoutMandateMismatch] else []) ++
    (if checkout.status ≠ .isOpen then [.checkoutNotOpen] else []) ++
    (if checkout.expiresAt ≤ instant then [.checkoutExpired] else []) ++
    (if checkout.currency ≠ mandate.currency then [.currencyMismatch]
      -- An amount is compared only with a ceiling in its own currency.
      else if mandate.maxTotalAmountMinor < checkout.totalAmountMinor then
        [.maxTotalExceeded]
      else []) ++
    match mandate.maxQuantity with
    | none => []
    | some ceiling =>
        if ceiling < checkoutQuantity checkout then [.maxQuantityExceeded] else []

/-- What the financial gate stands for: the conditions under which a mandate
pays for a quote at an instant. -/
structure FinanciallyAuthorized (checkout : CheckoutSession)
    (mandate : SpendingMandate) (instant : Instant) : Prop where
  mandateActive : mandate.status = .active
  validFrom : mandate.validFrom ≤ instant
  validUntil : instant < mandate.validUntil
  sameMerchant : checkout.merchantId = mandate.merchantId
  sameMandate : checkout.mandateId = mandate.id
  checkoutOpen : checkout.status = .isOpen
  unexpired : instant < checkout.expiresAt
  sameCurrency : checkout.currency = mandate.currency
  totalWithin : checkout.totalAmountMinor ≤ mandate.maxTotalAmountMinor
  quantityWithin : ∀ ceiling, mandate.maxQuantity = some ceiling →
    checkoutQuantity checkout ≤ ceiling

/-- A mandate is usable exactly when it is active and the instant lies in its
window. -/
theorem validateMandate_eq_nil_iff (mandate : SpendingMandate) (instant : Instant) :
    validateMandate mandate instant = [] ↔
      mandate.status = .active ∧ mandate.validFrom ≤ instant ∧ instant < mandate.validUntil := by
  unfold validateMandate
  by_cases active : mandate.status = .active
  · by_cases early : instant < mandate.validFrom
    · simp [active, early]
    · by_cases late : mandate.validUntil ≤ instant
      · simp [active, early, late]
      · simp [active, early, not_lt.mp early, not_le.mp late]
  · simp [active]

/-- The financial gate allows exactly what it stands for. -/
theorem authorizeCheckout_allowed_iff (checkout : CheckoutSession)
    (mandate : SpendingMandate) (instant : Instant) :
    (authorizeCheckout checkout mandate instant).allowed = true ↔
      FinanciallyAuthorized checkout mandate instant := by
  simp only [CheckoutAuthorizationDecision.allowed, authorizeCheckout,
    List.isEmpty_iff, List.append_eq_nil_iff, List.map_eq_nil_iff,
    validateMandate_eq_nil_iff]
  constructor
  · rintro ⟨⟨⟨⟨⟨⟨⟨active, started, unfinished⟩, merchant⟩, mandateEq⟩, isOpen⟩, expiry⟩, money⟩, count⟩
    refine
      { mandateActive := active
        validFrom := started
        validUntil := unfinished
        sameMerchant := by simpa using merchant
        sameMandate := by simpa using mandateEq
        checkoutOpen := by simpa using isOpen
        unexpired := by simpa using expiry
        sameCurrency := ?_
        totalWithin := ?_
        quantityWithin := ?_ }
    · by_contra different
      simp [different] at money
    · by_cases same : checkout.currency = mandate.currency
      · simpa [same] using money
      · simp [same] at money
    · intro ceiling ceilingEq
      simpa [ceilingEq] using count
  · intro authorized
    refine ⟨⟨⟨⟨⟨⟨⟨authorized.mandateActive, authorized.validFrom,
      authorized.validUntil⟩, ?_⟩, ?_⟩, ?_⟩, ?_⟩, ?_⟩, ?_⟩
    · simp [authorized.sameMerchant]
    · simp [authorized.sameMandate]
    · simp [authorized.checkoutOpen]
    · simp [authorized.unexpired]
    · simp [authorized.sameCurrency, authorized.totalWithin]
    · cases ceilingEq : mandate.maxQuantity with
      | none => rfl
      | some ceiling => simp [authorized.quantityWithin ceiling ceilingEq]

/-- The instant a reservation stops holding stock: the earlier of the two. -/
def reservationExpiresAt (checkoutExpiresAt mandateValidUntil : Instant) : Instant :=
  min checkoutExpiresAt mandateValidUntil

/-- Whether a reservation is holding stock at an instant.  A committed one is
not governed by the clock. -/
def isEffective (reservation : InventoryReservation) (instant : Instant) : Bool :=
  match reservation.status with
  | .committed => true
  | .active => decide (instant < reservation.expiresAt)
  | .released => false
  | .consumed => false

/-- A hold that is effective later was effective earlier. -/
theorem isEffective_of_le {reservation : InventoryReservation} {earlier later : Instant}
    (le : earlier ≤ later) (effective : isEffective reservation later = true) :
    isEffective reservation earlier = true := by
  unfold isEffective at effective ⊢
  cases status : reservation.status with
  | committed => rfl
  | active =>
      simp only [status, decide_eq_true_eq] at effective ⊢
      exact lt_of_le_of_lt le effective
  | released => simp [status] at effective
  | consumed => simp [status] at effective

end AgentRank.Checkout
