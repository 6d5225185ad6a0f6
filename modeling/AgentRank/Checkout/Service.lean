import AgentRank.Checkout.Execution
import AgentRank.Checkout.Quote
import AgentRank.Payments.Attempts

/-!
# The checkout service

This module models the two writing operations of `checkout/service.py`: pricing a
quote from the catalog, and withdrawing one.  A quote is withdrawn only when it
is not paid and no payment for it is unresolved, and the stock it holds is given
back in the same transaction.
-/

namespace AgentRank.Checkout

open Constraints Inventory Payments Relational Store Transaction

/-! ## Quoting -/

/-- One thing a caller wants on the quote. -/
structure CheckoutItem where
  variantId : Uuid
  quantity : Nat
  quantityPos : 0 < quantity

/-- A request to prepare a quote. -/
structure NewCheckout where
  merchantId : Uuid
  mandateId : Uuid
  items : List CheckoutItem
  expiresAt : Instant
  shippingAmountMinor : Nat := 0
  discountAmountMinor : Nat := 0

/-- `NewCheckout.__post_init__`. -/
def NewCheckout.validate (request : NewCheckout) : Except ValueError Unit :=
  if request.items.isEmpty then
    .error { message := "a checkout must contain at least one item" }
  else if maxCheckoutLines < request.items.length then
    .error { message := s!"a checkout may contain at most {maxCheckoutLines} items" }
  else if ¬(request.items.map CheckoutItem.variantId).Nodup then
    .error { message := "a checkout must not name the same variant twice" }
  else .ok ()

/-- The furthest ahead a quote may expire: twenty four hours. -/
def maxCheckoutTtl : Instant := 24 * 60 * 60 * 1000000

/-- `validate_checkout_expiry`. -/
def validateCheckoutExpiry (expiresAt now : Instant) : Except ValueError Unit :=
  if expiresAt ≤ now then .error { message := "expires_at must be in the future" }
  else if now + maxCheckoutTtl < expiresAt then
    .error { message := "expires_at must be within 1 day, 0:00:00 of now" }
  else .ok ()

/-- `_quote_line`: turn one requested item into a priced line, or refuse it. -/
def quoteLine (database : Database) (merchantId : Uuid) (item : CheckoutItem) :
    Except Failure QuotedLine := do
  match findVariant database.variants merchantId item.variantId with
  | none => .error (.notFound "variant" (toString item.variantId))
  | some variant =>
      match database.products.get? variant.productId with
      | none => .error (.integrityError "fk_variant_product")
      | some product =>
          if !variant.isActive then
            .error
              (.conflict "variant_inactive"
                s!"variant {variant.id} is not available for purchase"
                (some "variant") (some (toString variant.id)))
          else if !product.isActive then
            .error
              (.conflict "product_inactive"
                s!"product {variant.productId} is not available for purchase"
                (some "product") (some (toString variant.productId)))
          else if variant.inventoryQuantity < item.quantity then
            .error
              (.conflict "insufficient_inventory"
                s!"variant {variant.id} has {variant.inventoryQuantity} available, {item.quantity} requested"
                (some "variant") (some (toString variant.id)))
          else
            .ok
              { variantId := variant.id
                quantity := item.quantity
                unitPriceAmountMinor := variant.priceAmountMinor
                productCategory := product.category
                variantAttributes := variant.attributes
                quantityPos := item.quantityPos }

/-- `_single_currency`: the one currency every selected variant is priced in. -/
def singleCurrency (database : Database) (request : NewCheckout) :
    Except Failure String :=
  let currencies :=
    (request.items.filterMap fun item =>
      (findVariant database.variants request.merchantId item.variantId).map
        Variant.currency).dedup
  match currencies with
  | [] => .error (.integrityError "no variant was selected")
  | [currency] => .ok currency
  | _ =>
      let named := ", ".intercalate (currencies.insertionSort fun first second => first ≤ second)
      .error
        (.conflict "mixed_currencies"
          s!"a checkout has one currency, and these variants are priced in {named}" none none)

/-- `_created_payload`. -/
def checkoutCreatedPayload (checkout : CheckoutSession) : List (String × Json) :=
  [("mandate_id", Payload.uuid checkout.mandateId),
    ("currency", Payload.text checkout.currency),
    ("subtotal_amount_minor", Payload.number checkout.subtotalAmountMinor),
    ("shipping_amount_minor", Payload.number checkout.shippingAmountMinor),
    ("discount_amount_minor", Payload.number checkout.discountAmountMinor),
    ("total_amount_minor", Payload.number checkout.totalAmountMinor),
    ("total_quantity", Payload.number (checkoutQuantity checkout)),
    ("expires_at", Payload.instant checkout.expiresAt),
    ("status", Payload.text checkout.status.value),
    ("lines",
      .array <| checkout.lines.map fun line =>
        .object
          [("variant_id", Payload.uuid line.variantId),
            ("quantity", Payload.number line.quantity),
            ("unit_price_amount_minor", Payload.number line.unitPriceAmountMinor)])]

/-- The service's `_append`. -/
def appendCheckoutEvent (checkout : CheckoutSession) (eventType : EventType)
    (credentialId : Option Uuid) (payload : List (String × Json)) : Session PUnit :=
  appendAudit
    { merchantId := checkout.merchantId
      actorType := .buyer
      credentialId := credentialId
      eventType := eventType
      resourceType := "checkout_session"
      resourceId := checkout.id
      payload := payload }

/-- Insert a checkout, which the table refuses when it has already expired. -/
def insertCheckout (row : CheckoutSession) (createdAt : Instant) : Session PUnit := do
  let database ← get
  Transaction.refuseWhen (row.expiresAt ≤ createdAt)
    (.integrityError "ck_checkout_session_expiry_after_creation")
  let checkouts ←
    Transaction.require (database.checkouts.insert? row)
      (.integrityError "pk_checkout_session")
  set { database with checkouts := checkouts }

variable {database final : Database}

theorem insertCheckout_eq_ok {row : CheckoutSession} {createdAt : Instant} {result : PUnit}
    (committed : insertCheckout row createdAt database = .ok (result, final)) :
    ∃ checkouts, database.checkouts.insert? row = some checkouts ∧
      final = { database with checkouts := checkouts } := by
  simp only [insertCheckout, bind_eq_ok_iff, get_eq_ok_iff,
    refuseWhen_eq_ok_iff, require_eq_ok_iff,
    set_eq_ok_iff] at committed
  obtain ⟨_, _, ⟨rfl, rfl⟩, _, _, ⟨_, rfl⟩, checkouts, _, ⟨inserted, rfl⟩, rfl⟩ := committed
  exact ⟨checkouts, inserted, rfl⟩

/-- `CheckoutService.create_checkout`. -/
def createCheckout (request : NewCheckout) (capability : Option BenchmarkRunCapability)
    (credentialId : Option Uuid) (now transactionTime : Instant) (checkoutId : Uuid)
    (lineId : Nat → Uuid) : Session CheckoutSession := do
  enforce request.validate
  requireAllowed request.merchantId capability
  let database ← get
  let _ ←
    Transaction.require (database.merchants.get? request.merchantId)
      (.notFound "merchant" (toString request.merchantId))
  let _ ←
    Transaction.require (findMandate database request.mandateId request.merchantId)
      (.notFound "mandate" (toString request.mandateId))
  enforce (validateCheckoutExpiry request.expiresAt now)
  let lines ←
    Transaction.lift (request.items.mapM (quoteLine database request.merchantId))
  let currency ← Transaction.lift (singleCurrency database request)
  let checkout ←
    enforce
      (newCheckout
        { id := checkoutId
          merchantId := request.merchantId
          mandateId := request.mandateId
          currency := currency
          expiresAt := request.expiresAt
          shippingAmountMinor := request.shippingAmountMinor
          discountAmountMinor := request.discountAmountMinor }
        lines lineId)
  insertCheckout checkout transactionTime
  appendCheckoutEvent checkout .checkoutCreated credentialId
    (checkoutCreatedPayload checkout)
  pure checkout

/-! ## Withdrawing -/

/-- Write one checkout row. -/
def updateCheckout (row : CheckoutSession) : Session PUnit :=
  modify fun database => { database with checkouts := database.checkouts.set row }

/-- `CheckoutRepository.mark_paid`. -/
def markPaid (checkout : CheckoutSession) (transactionTime : Instant) : Session Bool :=
  match checkout.status with
  | .paid => pure false
  | .isOpen => do
      updateCheckout { checkout with status := .paid, paidAt := some transactionTime }
      pure true
  | .cancelled => throw (valueError "a cancelled checkout cannot be paid")

variable {checkout : CheckoutSession} {transactionTime : Instant}

/-- Marking a checkout leaves it paid. -/
theorem markPaid_eq_ok {changed : Bool} (member : checkout ∈ database.checkouts)
    (committed : markPaid checkout transactionTime database = .ok (changed, final)) :
    checkout.status ≠ .cancelled ∧
      ∃ paidAt,
        final =
          { database with
            checkouts :=
              database.checkouts.set { checkout with status := .paid, paidAt := paidAt } } := by
  unfold markPaid at committed
  cases status : checkout.status with
  | paid =>
      have same : { checkout with status := .paid, paidAt := checkout.paidAt } = checkout := by
        rw [← status]
      simp only [status, pure_eq_ok_iff] at committed
      refine ⟨(by rintro ⟨⟩), checkout.paidAt, ?_⟩
      rw [same, Table.set_of_mem member]
      exact committed.2
  | isOpen =>
      simp only [status, updateCheckout, bind_eq_ok_iff,
        modify_eq_ok_iff, pure_eq_ok_iff] at committed
      obtain ⟨_, _, rfl, _, rfl⟩ := committed
      exact ⟨(by rintro ⟨⟩), some transactionTime, rfl⟩
  | cancelled => simp only [status, throw_eq_ok_iff] at committed

/-- A checkout that was not cancelled can be marked paid. -/
theorem markPaid_total (notCancelled : checkout.status ≠ .cancelled) (transactionTime : Instant) :
    (markPaid checkout transactionTime).Total := by
  unfold markPaid
  cases status : checkout.status with
  | paid => exact Transaction.Total.pure false
  | isOpen =>
      apply Transaction.Total.bind (Transaction.Total.modify _)
      intro _
      exact Transaction.Total.pure true
  | cancelled => exact absurd status notCancelled

/-- `CheckoutRepository.cancel`, for a checkout that is not paid. -/
def cancel (checkout : CheckoutSession) (transactionTime : Instant) : Session Bool :=
  match checkout.status with
  | .cancelled => pure false
  | _ => do
      updateCheckout { checkout with status := .cancelled, cancelledAt := some transactionTime }
      pure true

/-- Withdrawing a checkout leaves it cancelled. -/
theorem cancel_eq_ok {changed : Bool} (member : checkout ∈ database.checkouts)
    (committed : cancel checkout transactionTime database = .ok (changed, final)) :
    ∃ cancelledAt,
      final =
        { database with
          checkouts :=
            database.checkouts.set
              { checkout with status := .cancelled, cancelledAt := cancelledAt } } := by
  unfold cancel at committed
  cases status : checkout.status with
  | cancelled =>
      have same :
          { checkout with status := .cancelled, cancelledAt := checkout.cancelledAt } =
            checkout := by
        rw [← status]
      simp only [status, pure_eq_ok_iff] at committed
      refine ⟨checkout.cancelledAt, ?_⟩
      rw [same, Table.set_of_mem member]
      exact committed.2
  | isOpen | paid =>
      simp only [status, updateCheckout, bind_eq_ok_iff,
        modify_eq_ok_iff, pure_eq_ok_iff] at committed
      obtain ⟨_, _, rfl, _, rfl⟩ := committed
      exact ⟨some transactionTime, rfl⟩

/-- `_require_cancellable`: refuse a withdrawal that would race a payment, or undo
one. -/
def requireCancellable (checkout : CheckoutSession) : Session PUnit := do
  Transaction.refuseWhen (checkout.status = .paid)
    (.conflict "checkout_already_paid"
      s!"checkout {checkout.id} has been paid and cannot be withdrawn"
      (some "checkout") (some (toString checkout.id)))
  let database ← get
  Transaction.refuseWhen (openForCheckout database checkout.id).isSome
    (.conflict "payment_in_progress"
      s!"checkout {checkout.id} has a payment that has not resolved"
      (some "checkout") (some (toString checkout.id)))

theorem requireCancellable_eq_ok {result : PUnit}
    (committed : requireCancellable checkout database = .ok (result, final)) :
    checkout.status ≠ .paid ∧ openForCheckout database checkout.id = none ∧
      final = database := by
  simp only [requireCancellable, bind_eq_ok_iff, get_eq_ok_iff,
    refuseWhen_eq_ok_iff] at committed
  obtain ⟨_, _, ⟨unpaid, rfl⟩, _, _, ⟨rfl, rfl⟩, noneOpen, rfl⟩ := committed
  exact ⟨unpaid, Option.not_isSome_iff_eq_none.mp noneOpen, rfl⟩

/-- `CheckoutService.cancel_checkout`. -/
def cancelCheckout (checkoutId merchantId : Uuid)
    (capability : Option BenchmarkRunCapability) (credentialId : Option Uuid)
    (transactionTime : Instant) : Session PUnit := do
  requireAllowed merchantId capability
  let checkout ←
    Transaction.require (findCheckout (← get) checkoutId merchantId)
      (.notFound "checkout" (toString checkoutId))
  requireCancellable checkout
  if ← cancel checkout transactionTime then do
    appendCheckoutEvent checkout .checkoutCancelled credentialId
      [("status", Payload.text CheckoutStatus.cancelled.value)]
    let _ ← releaseForCheckout checkout.id .checkoutCancelled transactionTime
  else do
    let _ ← releaseForCheckout checkout.id .reservationRecovered transactionTime

/-- A committed withdrawal cancelled an unpaid checkout without an unresolved
payment, and gave back what it was holding. -/
theorem cancelCheckout_eq_ok {checkoutId merchantId : Uuid}
    {capability : Option BenchmarkRunCapability} {credentialId : Option Uuid} {result : PUnit}
    (committed : cancelCheckout checkoutId merchantId capability credentialId transactionTime
      database = .ok (result, final)) :
    ∃ checkout cancelledAt reservations,
      findCheckout database checkoutId merchantId = some checkout ∧
      checkout.status ≠ .paid ∧
      openForCheckout database checkout.id = none ∧
      ((holdingForCheckout database checkout.id = none ∧
          reservations = database.reservations) ∨
        ∃ reservation releasedAt,
          holdingForCheckout database checkout.id = some reservation ∧
          reservations =
            database.reservations.set
              { reservation with status := .released, releasedAt := releasedAt }) ∧
      final =
        { database with
          checkouts :=
            database.checkouts.set
              { checkout with status := .cancelled, cancelledAt := cancelledAt }
          reservations := reservations
          auditEvents := final.auditEvents } ∧
      Appends [.checkoutCancelled, .inventoryReleased] database final := by
  unfold cancelCheckout at committed
  simp only [bind_eq_ok_iff, requireAllowed_eq_ok_iff, get_eq_ok_iff,
    require_eq_ok_iff] at committed
  obtain ⟨_, _, ⟨_, rfl⟩, _, _, ⟨rfl, rfl⟩, checkout, _, ⟨checkoutEq, rfl⟩, _, database,
    cancellable, changed, marked, markedEq, committed⟩ := committed
  obtain ⟨unpaid, noneOpen, rfl⟩ := requireCancellable_eq_ok cancellable
  obtain ⟨member, _, _⟩ := findCheckout_eq_some_iff.mp checkoutEq
  obtain ⟨cancelledAt, rfl⟩ := cancel_eq_ok member markedEq
  refine ⟨checkout, cancelledAt, final.reservations, checkoutEq, unpaid, noneOpen, ?_⟩
  -- Both branches release under the rows of the cancelled checkout.
  have released : ∃ reason middle changed,
      Appends [.checkoutCancelled] database middle ∧
      (∃ events, middle =
        { database with
          checkouts :=
            database.checkouts.set
              { checkout with status := .cancelled, cancelledAt := cancelledAt }
          auditEvents := events }) ∧
      releaseForCheckout checkout.id reason transactionTime middle = .ok (changed, final) := by
    split at committed
    · simp only [appendCheckoutEvent, bind_eq_ok_iff, appendAudit_eq_ok_iff,
        pure_eq_ok_iff] at committed
      obtain ⟨_, _, rfl, changed, _, committed, _, rfl⟩ := committed
      exact ⟨_, _, changed, Appends.event (List.mem_singleton_self _) rfl, ⟨_, rfl⟩, committed⟩
    · simp only [bind_eq_ok_iff, pure_eq_ok_iff] at committed
      obtain ⟨changed, _, committed, _, rfl⟩ := committed
      exact ⟨_, _, changed, by exact Appends.of_eq rfl, ⟨_, rfl⟩, committed⟩
  obtain ⟨reason, middle, changed, appended, ⟨events, rfl⟩, releasedEq⟩ := released
  obtain ⟨alsoAppended, outcome⟩ := releaseForCheckout_eq_ok releasedEq
  have appends : Appends [.checkoutCancelled, .inventoryReleased] database final :=
    (appended.mono (by simp)).trans (alsoAppended.mono (by simp))
  rcases outcome with ⟨absent, rfl⟩ | ⟨reservation, releasedAt, held, finalEq⟩
  · exact ⟨Or.inl ⟨absent, rfl⟩, rfl, appends⟩
  · refine ⟨Or.inr ⟨reservation, releasedAt, held, ?_⟩, ?_, appends⟩
    · rw [finalEq]
    · rw [finalEq]

/-- A committed quote inserted one open checkout as the repository writes it. -/
theorem createCheckout_eq_ok {request : NewCheckout} {capability : Option BenchmarkRunCapability}
    {credentialId : Option Uuid} {now : Instant} {checkoutId : Uuid} {lineId : Nat → Uuid}
    (committed : createCheckout request capability credentialId now transactionTime checkoutId
      lineId database = .ok (checkout, final)) :
    checkout.status = .isOpen ∧ IsQuote checkout ∧
      (∀ line ∈ checkout.lines, 0 < line.quantity) ∧
      ∃ checkouts,
        database.checkouts.insert? checkout = some checkouts ∧
        final = { database with checkouts := checkouts, auditEvents := final.auditEvents } ∧
        Appends [.checkoutCreated] database final := by
  unfold createCheckout appendCheckoutEvent at committed
  simp only [bind_eq_ok_iff, requireAllowed_eq_ok_iff, get_eq_ok_iff,
    require_eq_ok_iff, enforce_eq_ok_iff, lift_eq_ok_iff,
    appendAudit_eq_ok_iff, pure_eq_ok_iff] at committed
  obtain ⟨_, _, ⟨_, rfl⟩, _, _, ⟨_, rfl⟩, _, _, ⟨rfl, rfl⟩, _, _, ⟨_, rfl⟩, committed⟩ :=
    committed
  obtain ⟨_, _, ⟨_, rfl⟩, _, _, ⟨_, rfl⟩, lines, _, ⟨_, rfl⟩, committed⟩ := committed
  obtain ⟨currency, _, ⟨_, rfl⟩, quote, _, ⟨quoteEq, rfl⟩, _, _, insertedEq, committed⟩ :=
    committed
  obtain ⟨checkouts, inserted, rfl⟩ := insertCheckout_eq_ok insertedEq
  obtain ⟨_, _, rfl, rfl, rfl⟩ := committed
  exact ⟨(newCheckout_eq_ok quoteEq).1, newCheckout_isQuote quoteEq,
    newCheckout_quantityPos quoteEq, checkouts, inserted, rfl,
    Appends.event (List.mem_singleton_self _) rfl⟩

end AgentRank.Checkout
