import AgentRank.Checkout.Service
import AgentRank.Mandates.Storage
import Mathlib.Data.List.Dedup

/-!
# Which quotes are stored

This module models the request models of `checkout/schemas.py`.  What a quote adds up to is a sum
of products of quantities and catalog prices, and nothing bounds it before it is written.
-/

namespace AgentRank.Checkout

open Constraints Inventory Mandates Relational Store Transaction

/-! ## The request -/

/-- How long a quote is good for when the caller does not say: fifteen minutes. -/
def defaultCheckoutTtl : Instant := 15 * 60 * 1000000

structure CheckoutItemInput where
  variantId : Uuid
  quantity : Int

/-- `CheckoutItemInput.to_domain`. -/
def CheckoutItemInput.toDomain (input : CheckoutItemInput) : Except ValueError CheckoutItem :=
  if positive : 0 < input.quantity then
    .ok
      { variantId := input.variantId
        quantity := input.quantity.toNat
        quantityPos := Int.pos_iff_toNat_pos.mp positive }
  else .error { message := s!"quantity must be positive, got {input.quantity}" }

/-- The fields of a `CreateCheckoutRequest`. -/
structure CheckoutInput where
  mandateId : Uuid
  items : List CheckoutItemInput
  expiresAt : Option DateTime := none

namespace CheckoutInput

/-- The constraints on the fields. -/
def isStated (input : CheckoutInput) : Bool :=
  1 ≤ input.items.length && input.items.length ≤ maxCheckoutLines &&
    input.items.all fun item => 0 < item.quantity

/-- The instant of expiry, as stated or a while after the clock of the server. -/
def expiry (input : CheckoutInput) (now : DateTime) : Instant :=
  input.expiresAt.elim (now.instant + defaultCheckoutTtl) DateTime.instant

/-- `CreateCheckoutRequest.to_command`. -/
def toCommand (input : CheckoutInput) (now : DateTime) (merchantId : Uuid) :
    Except ValueError NewCheckout := do
  if input.expiresAt.any fun stated => !stated.isAware then
    .error { message := "checkout expiry must be timezone aware" }
  else
    validateCheckoutExpiry (input.expiry now) now.instant
    let items ← input.items.mapM CheckoutItemInput.toDomain
    let command : NewCheckout :=
      { merchantId := merchantId
        mandateId := input.mandateId
        items := items
        expiresAt := input.expiry now }
    command.validate
    .ok command

end CheckoutInput

/-- A `CreateCheckoutRequest` that its schema accepts at some time. -/
structure CreateCheckoutRequest where
  input : CheckoutInput
  stated : input.isStated = true
  parsed : DateTime
  accepted : ∃ command, input.toCommand parsed 0 = .ok command

/-- A quote expires at an instant that its column holds. -/
theorem holdsTimestamp_expiry (input : CheckoutInput) (now : DateTime) :
    holdsTimestamp (input.expiry now) = true := by
  rw [CheckoutInput.expiry]
  cases input.expiresAt with
  | some stated => exact stated.holdsTimestamp_instant
  | none =>
      have bounds := now.instant_bounds
      rw [minInstant, maxInstant, oneDay] at bounds
      rw [Option.elim_none, holdsTimestamp, Bool.and_eq_true, decide_eq_true_iff,
        decide_eq_true_iff, minTimestamp, maxTimestamp, defaultCheckoutTtl]
      constructor
      · have lower := bounds.1
        omega
      · have upper := bounds.2
        omega

theorem validate_checkout_iff {command : NewCheckout} :
    command.validate = .ok () ↔
      command.items ≠ [] ∧ command.items.length ≤ maxCheckoutLines ∧
        (command.items.map CheckoutItem.variantId).Nodup := by
  unfold NewCheckout.validate
  split
  · next empty => simp [List.isEmpty_iff.mp empty]
  · next notEmpty =>
      split
      · next many => simp [not_le.mpr many]
      · next few =>
          split
          · next repeated => exact iff_of_false nofun fun valid => repeated valid.2.2
          · next distinct =>
              refine iff_of_true rfl ⟨?_, not_lt.mp few, not_not.mp distinct⟩
              rintro empty
              exact notEmpty (List.isEmpty_iff.mpr empty)

/-- The command of a request carries its fields. -/
theorem command_of_checkout {input : CheckoutInput} {now : DateTime} {merchantId : Uuid}
    {command : NewCheckout} (isCommand : input.toCommand now merchantId = .ok command) :
    command.merchantId = merchantId ∧ command.mandateId = input.mandateId ∧
      command.expiresAt = input.expiry now ∧ command.shippingAmountMinor = 0 ∧
      command.discountAmountMinor = 0 ∧ command.validate = .ok () ∧
      List.Forall₂
        (fun stated item => item.variantId = stated.variantId ∧
          (item.quantity : Int) = stated.quantity)
        input.items command.items := by
  unfold CheckoutInput.toCommand at isCommand
  split at isCommand
  · cases isCommand
  · rw [check_bind_eq_ok_iff, except_bind_eq_ok_iff] at isCommand
    obtain ⟨_, items, isItems, checked⟩ := isCommand
    rw [check_bind_eq_ok_iff] at checked
    obtain ⟨valid, same⟩ := checked
    cases same
    refine ⟨rfl, rfl, rfl, rfl, rfl, valid, ?_⟩
    refine (mapM_eq_ok_iff.mp isItems).imp ?_
    intro stated item isItem
    unfold CheckoutItemInput.toDomain at isItem
    split at isItem
    · next positive =>
        cases isItem
        exact ⟨rfl, Int.toNat_of_nonneg positive.le⟩
    · cases isItem

/-! ## What the catalog offers -/

/-- An item as the catalog offers it. -/
structure Offered (database : Database) (merchantId : Uuid) (item : CheckoutItem)
    (variant : Variant) (product : Product) : Prop where
  found : findVariant database.variants merchantId item.variantId = some variant
  ofProduct : database.products.get? variant.productId = some product
  variantActive : variant.isActive = true
  productActive : product.isActive = true
  enough : item.quantity ≤ variant.inventoryQuantity

def offeredLine (item : CheckoutItem) (variant : Variant) (product : Product) : QuotedLine where
  variantId := variant.id
  quantity := item.quantity
  unitPriceAmountMinor := variant.priceAmountMinor
  productCategory := product.category
  variantAttributes := variant.attributes
  quantityPos := item.quantityPos

variable {database : Database}

theorem quoteLine_eq_ok_iff {merchantId : Uuid} {item : CheckoutItem} {line : QuotedLine} :
    quoteLine database merchantId item = .ok line ↔
      ∃ variant product, Offered database merchantId item variant product ∧
        line = offeredLine item variant product := by
  unfold quoteLine
  constructor
  · intro quoted
    split at quoted
    · cases quoted
    · next variant found =>
        split at quoted
        · cases quoted
        · next product ofProduct =>
            split at quoted
            · cases quoted
            · next variantActive =>
                split at quoted
                · cases quoted
                · next productActive =>
                    split at quoted
                    · cases quoted
                    · next enough =>
                        cases quoted
                        refine ⟨variant, product, ⟨found, ofProduct, ?_, ?_, not_lt.mp enough⟩, rfl⟩
                        · simpa using variantActive
                        · simpa using productActive
  · rintro ⟨variant, product, offered, rfl⟩
    simp [offered.found, offered.ofProduct, offered.variantActive, offered.productActive,
      not_lt.mpr offered.enough, offeredLine]

/-- Where every variant is one of a product, no line is refused by the database. -/
theorem quoteLine_ne_integrityError (sound : database.IsSound) {merchantId : Uuid}
    {item : CheckoutItem} (name : String) :
    quoteLine database merchantId item ≠ .error (.integrityError name) := by
  intro refused
  unfold quoteLine at refused
  split at refused
  · cases refused
  · next variant found =>
      obtain ⟨member, _, _⟩ := findVariant_eq_some_iff.mp found
      obtain ⟨product, ofProduct⟩ := sound.ofProduct variant member
      simp only [ofProduct] at refused
      split at refused
      · cases refused
      · split at refused
        · cases refused
        · split at refused <;> cases refused

/-- The price of a variant in the catalog. -/
def catalogPrice (database : Database) (merchantId variantId : Uuid) : Nat :=
  (findVariant database.variants merchantId variantId).elim 0 Variant.priceAmountMinor

/-- What a quote adds up to, at the prices of the catalog. -/
def quotedAmount (database : Database) (command : NewCheckout) : Nat :=
  (command.items.map fun item =>
    item.quantity * catalogPrice database command.merchantId item.variantId).sum

/-- The lines of a quote are the items as the catalog offers them. -/
def LinesOffered (database : Database) (merchantId : Uuid) (items : List CheckoutItem)
    (lines : List QuotedLine) : Prop :=
  List.Forall₂
    (fun item line => ∃ variant product, Offered database merchantId item variant product ∧
      line = offeredLine item variant product)
    items lines

section Lines

variable {database : Database} {merchantId : Uuid} {items : List CheckoutItem}
  {lines : List QuotedLine}

theorem mapM_quoteLine_eq_ok_iff :
    items.mapM (quoteLine database merchantId) = .ok lines ↔
      LinesOffered database merchantId items lines := by
  rw [mapM_eq_ok_iff]
  simp only [quoteLine_eq_ok_iff]
  rfl

theorem exists_lines_iff :
    (∃ lines, LinesOffered database merchantId items lines) ↔
      ∀ item ∈ items, ∃ variant product, Offered database merchantId item variant product := by
  simp only [← mapM_quoteLine_eq_ok_iff, exists_mapM_eq_ok_iff, quoteLine_eq_ok_iff]
  apply forall₂_congr
  intro item _
  constructor
  · rintro ⟨_, variant, product, offered, _⟩
    exact ⟨variant, product, offered⟩
  · rintro ⟨variant, product, offered⟩
    exact ⟨_, variant, product, offered, rfl⟩

theorem found_of_offered
    (offered : ∀ item ∈ items, ∃ variant product,
      Offered database merchantId item variant product) :
    ∀ item ∈ items, ∃ variant,
      findVariant database.variants merchantId item.variantId = some variant := by
  intro item member
  obtain ⟨variant, _, isOffered⟩ := offered item member
  exact ⟨variant, isOffered.found⟩

/-- The lines add up to what the catalog says. -/
theorem LinesOffered.subtotal (offered : LinesOffered database merchantId items lines) :
    quotedSubtotal lines =
      (items.map fun item =>
        item.quantity * catalogPrice database merchantId item.variantId).sum := by
  rw [quotedSubtotal]
  induction offered with
  | nil => rfl
  | cons isOffered _ ih =>
      obtain ⟨variant, product, isOffered, rfl⟩ := isOffered
      rw [List.map_cons, List.map_cons, List.sum_cons, List.sum_cons, ih]
      simp [QuotedLine.lineAmountMinor, offeredLine, catalogPrice, isOffered.found]

theorem LinesOffered.variantIds (offered : LinesOffered database merchantId items lines) :
    lines.map QuotedLine.variantId = items.map CheckoutItem.variantId := by
  induction offered with
  | nil => rfl
  | cons isOffered _ ih =>
      obtain ⟨variant, product, isOffered, rfl⟩ := isOffered
      rw [List.map_cons, List.map_cons, ih]
      exact congrArg (· :: _) (findVariant_eq_some_iff.mp isOffered.found).2.1

/-- The lines fit as the catalog does. -/
theorem LinesOffered.fits (offered : LinesOffered database merchantId items lines)
    (sound : database.IsSound) :
    ∀ line ∈ lines, ∀ id, (storedLine id line).fits = true := by
  intro line member id
  obtain ⟨item, _, variant, product, isOffered, rfl⟩ := exists_left_of_forall₂ offered member
  have variantFits := sound.variant (findVariant_eq_some_iff.mp isOffered.found).1
  have productFits := sound.product (Table.get?_eq_some_iff.mp isOffered.ofProduct).1
  simp only [Variant.fits, Bool.and_eq_true, decide_eq_true_iff] at variantFits
  obtain ⟨⟨⟨price, _⟩, stock⟩, attributes⟩ := variantFits
  rw [Product.fits] at productFits
  have quantity := isOffered.enough.trans stock
  simp [CheckoutLine.fits, storedLine, offeredLine, item.quantityPos, quantity, price, productFits,
    attributes]

end Lines

variable {currency : String}

section Currency

variable {database : Database} {command : NewCheckout}

/-- Every item is priced in a currency. -/
def PricedIn (database : Database) (command : NewCheckout) (currency : String) : Prop :=
  ∀ item ∈ command.items, ∀ variant,
    findVariant database.variants command.merchantId item.variantId = some variant →
      variant.currency = currency

/-- The currencies of the variants that are found, each one once. -/
def currenciesOf (database : Database) (command : NewCheckout) : List String :=
  (command.items.filterMap fun item =>
    (findVariant database.variants command.merchantId item.variantId).map
      Variant.currency).dedup

theorem mem_currenciesOf :
    currency ∈ currenciesOf database command ↔
      ∃ item ∈ command.items, ∃ variant,
        findVariant database.variants command.merchantId item.variantId = some variant ∧
          variant.currency = currency := by
  simp only [currenciesOf, List.mem_dedup, List.mem_filterMap, Option.map_eq_some_iff]

theorem currenciesOf_ne_nil (hasItems : command.items ≠ [])
    (found : ∀ item ∈ command.items, ∃ variant,
      findVariant database.variants command.merchantId item.variantId = some variant) :
    currenciesOf database command ≠ [] := by
  obtain ⟨first, rest, itemsEq⟩ := List.exists_cons_of_ne_nil hasItems
  have member : first ∈ command.items := by
    rw [itemsEq]
    exact List.mem_cons_self
  obtain ⟨variant, isFound⟩ := found first member
  exact List.ne_nil_of_mem (mem_currenciesOf.mpr ⟨first, member, variant, isFound, rfl⟩)

/-- Where every item is found, the one currency is that of every item. -/
theorem singleCurrency_eq_ok_iff (hasItems : command.items ≠ [])
    (found : ∀ item ∈ command.items, ∃ variant,
      findVariant database.variants command.merchantId item.variantId = some variant) :
    singleCurrency database command = .ok currency ↔ PricedIn database command currency := by
  have priced : PricedIn database command currency ↔
      ∀ other ∈ currenciesOf database command, other = currency := by
    constructor
    · intro isPriced other member
      obtain ⟨item, itemMem, variant, isFound, rfl⟩ := mem_currenciesOf.mp member
      exact isPriced item itemMem variant isFound
    · intro all item member variant isFound
      exact all _ (mem_currenciesOf.mpr ⟨item, member, variant, isFound, rfl⟩)
  have nonempty := currenciesOf_ne_nil hasItems found
  have distinct : (currenciesOf database command).Nodup := List.nodup_dedup _
  rw [priced]
  cases named : currenciesOf database command with
  | nil => exact absurd named nonempty
  | cons first rest =>
      have drawn := named
      unfold currenciesOf at drawn
      cases rest with
      | nil => simp [singleCurrency, drawn]
      | cons second others =>
          refine iff_of_false (by simp [singleCurrency, drawn]) ?_
          intro all
          rw [named] at distinct
          have same : first = second :=
            (all first (by simp)).trans (all second (by simp)).symm
          exact (List.nodup_cons.mp distinct).1 (by simp [same])

theorem singleCurrency_ne_integrityError (hasItems : command.items ≠ [])
    (found : ∀ item ∈ command.items, ∃ variant,
      findVariant database.variants command.merchantId item.variantId = some variant)
    (name : String) : singleCurrency database command ≠ .error (.integrityError name) := by
  have nonempty := currenciesOf_ne_nil hasItems found
  cases named : currenciesOf database command with
  | nil => exact absurd named nonempty
  | cons first rest =>
      unfold currenciesOf at named
      cases rest with
      | nil => simp [singleCurrency, named]
      | cons second others => simp [singleCurrency, named]

end Currency

variable {lines : List QuotedLine} {header : QuoteHeader} {lineId : Nat → Uuid}

theorem exists_newCheckout (hasLines : lines ≠ []) (few : lines.length ≤ maxCheckoutLines)
    (distinct : (lines.map QuotedLine.variantId).Nodup)
    (noDiscount : header.discountAmountMinor = 0) :
    ∃ checkout, newCheckout header lines lineId = .ok checkout := by
  have empty : lines.isEmpty = false := by simpa using hasLines
  simp only [newCheckout, checkoutTotals, empty, not_lt.mpr few, distinct, noDiscount,
    Bool.false_eq_true, not_true_eq_false, Nat.not_lt_zero, if_false, dif_pos]
  exact ⟨_, rfl⟩

variable {checkout : CheckoutSession}

/-- What a new row takes over from its header. -/
theorem newCheckout_header (written : newCheckout header lines lineId = .ok checkout) :
    checkout.id = header.id ∧ checkout.merchantId = header.merchantId ∧
      checkout.mandateId = header.mandateId ∧ checkout.currency = header.currency ∧
      checkout.expiresAt = header.expiresAt ∧ checkout.cancelledAt = none ∧
      checkout.paidAt = none := by
  obtain ⟨totals, _, made⟩ := except_bind_eq_ok_iff.mp written
  split at made
  · cases made
    exact ⟨rfl, rfl, rfl, rfl, rfl, rfl, rfl⟩
  · cases made

/-- Without shipping and discount, a row is what its lines add up to. -/
theorem newCheckout_amounts (written : newCheckout header lines lineId = .ok checkout)
    (noShipping : header.shippingAmountMinor = 0) (noDiscount : header.discountAmountMinor = 0) :
    checkout.subtotalAmountMinor = quotedSubtotal lines ∧ checkout.shippingAmountMinor = 0 ∧
      checkout.discountAmountMinor = 0 ∧ checkout.totalAmountMinor = quotedSubtotal lines := by
  obtain ⟨_, _, totals, totalsEq, subtotalEq, shippingEq, discountEq, totalEq⟩ :=
    newCheckout_eq_ok written
  obtain ⟨_, _, subtotal, shipping, discount, total⟩ := checkoutTotals_eq_ok totalsEq
  rw [noShipping] at shipping total
  rw [noDiscount] at discount total
  refine ⟨subtotalEq.trans subtotal, shippingEq.trans shipping, discountEq.trans discount, ?_⟩
  rw [totalEq, ← subtotal]
  exact total

variable {items : List CheckoutItem}

/-- A quote is stored exactly if what it adds up to is. -/
theorem fits_newCheckout (sound : database.IsSound)
    (offered : LinesOffered database header.merchantId items lines)
    (written : newCheckout header lines lineId = .ok checkout)
    (currency : holdsCurrency header.currency = true)
    (expiry : holdsTimestamp header.expiresAt = true)
    (noShipping : header.shippingAmountMinor = 0) (noDiscount : header.discountAmountMinor = 0) :
    checkout.fits = true ↔ quotedSubtotal lines ≤ maxBigInteger := by
  obtain ⟨_, _, _, currencyEq, expiresEq, cancelledEq, paidEq⟩ := newCheckout_header written
  obtain ⟨statusEq, linesEq, _⟩ := newCheckout_eq_ok written
  obtain ⟨subtotal, shipping, discount, total⟩ := newCheckout_amounts written noShipping noDiscount
  have heldLines : (checkout.lines.all CheckoutLine.fits) = true := by
    rw [linesEq, List.all_eq_true]
    intro line member
    obtain ⟨index, below, rfl⟩ := List.mem_mapIdx.mp member
    exact offered.fits sound _ (List.getElem_mem below) _
  simp [CheckoutSession.fits, currencyEq, expiresEq, cancelledEq, paidEq, statusEq, subtotal,
    shipping, discount, total, currency, expiry, heldLines]

def checkoutCreatedEvent (checkout : CheckoutSession) (credentialId : Option Uuid) :
    AuditEvent where
  merchantId := checkout.merchantId
  actorType := .buyer
  credentialId := credentialId
  eventType := .checkoutCreated
  resourceType := "checkout_session"
  resourceId := checkout.id
  payload := checkoutCreatedPayload checkout

/-- The event of a quote is stored. -/
theorem fits_checkoutCreatedEvent (credentialId : Option Uuid)
    (currency : holdsText checkout.currency = true) :
    (checkoutCreatedEvent checkout credentialId).fits = true := by
  have lines : holdsJson (.array (checkout.lines.map fun line =>
      .object
        [("variant_id", Payload.uuid line.variantId),
          ("quantity", Payload.number line.quantity),
          ("unit_price_amount_minor", Payload.number line.unitPriceAmountMinor)])) = true := by
    rw [holdsJson_array, List.forall_mem_map]
    intro line _
    simp +decide [holdsJson, holdsFields]
  have status : holdsText checkout.status.value = true := by
    cases checkout.status <;> decide
  simp +decide [AuditEvent.fits, checkoutCreatedEvent, checkoutCreatedPayload, holdsFields,
    currency, status, lines]

/-! ## The call -/

/-- When a quote gets as far as being written. -/
structure Quotable (command : NewCheckout) (checked : Instant) (database : Database) : Prop where
  expiry : validateCheckoutExpiry command.expiresAt checked = .ok ()
  offered : ∀ item ∈ command.items, ∃ variant product,
    Offered database command.merchantId item variant product
  priced : ∃ currency, PricedIn database command currency

section Call

variable {command : NewCheckout} {capability : Option BenchmarkRunCapability}
  {credentialId : Option Uuid} {checked transactionTime : Instant} {checkoutId : Uuid}
  {lineId : Nat → Uuid} {database final : Database} {row : CheckoutSession}

/-- The header of a quote for a command. -/
def quoteHeader (command : NewCheckout) (checkoutId : Uuid) (currency : String) : QuoteHeader where
  id := checkoutId
  merchantId := command.merchantId
  mandateId := command.mandateId
  currency := currency
  expiresAt := command.expiresAt
  shippingAmountMinor := command.shippingAmountMinor
  discountAmountMinor := command.discountAmountMinor

theorem createCheckout_eq_ok_iff (valid : command.validate = .ok ()) :
    createCheckout command capability credentialId checked transactionTime checkoutId lineId
        database = .ok (row, final) ↔
      Entered command.merchantId capability database ∧
        (∃ mandate, findMandate database command.mandateId command.merchantId = some mandate) ∧
        validateCheckoutExpiry command.expiresAt checked = .ok () ∧
        (∃ lines currency, LinesOffered database command.merchantId command.items lines ∧
          singleCurrency database command = .ok currency ∧
          newCheckout (quoteHeader command checkoutId currency) lines lineId = .ok row) ∧
        transactionTime < row.expiresAt ∧
        ∃ checkouts, database.checkouts.insert? row = some checkouts ∧
          final =
            { database with
              checkouts := checkouts
              auditEvents := database.auditEvents ++ [checkoutCreatedEvent row credentialId] } := by
  simp only [createCheckout, insertCheckout, appendCheckoutEvent, requireAllowed, appendAudit,
    bind_assoc, enforce_bind_eq_ok_iff, checking_bind_eq_ok_iff, get_bind,
    require_bind_eq_ok_iff, refuseWhen_bind_eq_ok_iff,
    lift_bind, except_bind_eq_ok_iff, set_bind, modify_bind,
    pure_eq_ok_iff, mapM_quoteLine_eq_ok_iff]
  constructor
  · rintro ⟨_, _, allowed, merchant, known, mandate, found, _, expiry, lines, offered, currency,
      isCurrency, _, written, unexpired, checkouts, inserted, rfl, rfl⟩
    exact ⟨⟨allowed, merchant, known⟩, ⟨mandate, found⟩, expiry,
      ⟨lines, currency, offered, isCurrency, written⟩, not_le.mp unexpired, checkouts, inserted,
      rfl⟩
  · rintro ⟨⟨allowed, merchant, known⟩, ⟨mandate, found⟩, expiry,
      ⟨lines, currency, offered, isCurrency, written⟩, unexpired, checkouts, inserted, rfl⟩
    exact ⟨⟨⟩, valid, allowed, merchant, known, mandate, found, ⟨⟩, expiry, lines, offered,
      currency, isCurrency, row, written, not_le.mpr unexpired, checkouts, inserted, rfl, rfl⟩

/-- Under a fresh identifier the database refuses a quote only because it has expired. -/
theorem createCheckout_integrityError (sound : database.IsSound)
    (valid : command.validate = .ok ())
    (fresh : ∀ other ∈ database.checkouts, other.id ≠ checkoutId) {name : String}
    (refused : createCheckout command capability credentialId checked transactionTime checkoutId
      lineId database = .error (.integrityError name)) :
    Entered command.merchantId capability database ∧
      (∃ mandate, findMandate database command.mandateId command.merchantId = some mandate) ∧
      Quotable command checked database ∧ command.expiresAt ≤ transactionTime := by
  have hasItems := (validate_checkout_iff.mp valid).1
  simp only [createCheckout, insertCheckout, appendCheckoutEvent, requireAllowed, appendAudit,
    bind_assoc, enforce_bind_eq_error_iff, checking_bind_eq_error_iff,
    get_bind, require_bind_eq_error_iff,
    refuseWhen_bind_eq_error_iff, lift_bind, except_bind_eq_error_iff,
    set_bind, modify_bind, pure_eq_error_iff, reduceCtorEq,
    and_false, false_or, exists_false, or_false, mapM_quoteLine_eq_ok_iff] at refused
  obtain ⟨_, _, refused | ⟨allowed, merchant, known, mandate, found, _, expiry,
    refused | ⟨lines, offered, refused⟩⟩⟩ := refused
  · exact absurd refused mutationRefusal_ne_integrityError
  · obtain ⟨item, _, refused⟩ := exists_of_mapM_eq_error refused
    exact absurd refused (quoteLine_ne_integrityError sound name)
  · have everyOffered := exists_lines_iff.mp ⟨lines, offered⟩
    have everyFound := found_of_offered everyOffered
    rcases refused with refused | ⟨currency, isCurrency, row, written,
      ⟨expired, _⟩ | ⟨_, taken, _⟩⟩
    · exact absurd refused (singleCurrency_ne_integrityError hasItems everyFound name)
    · have priced := (singleCurrency_eq_ok_iff hasItems everyFound).mp isCurrency
      obtain ⟨_, _, _, _, expiresEq, _⟩ := newCheckout_header written
      refine ⟨⟨allowed, merchant, known⟩, ⟨mandate, found⟩,
        ⟨expiry, everyOffered, currency, priced⟩, ?_⟩
      rw [← show row.expiresAt = command.expiresAt from expiresEq]
      exact expired
    · obtain ⟨other, member, sameKey⟩ := Table.insert?_eq_none_iff.mp taken
      exact absurd (sameKey.trans (newCheckout_header written).1) (fresh other member)

/-- The command of a request, performed for the merchant of the credential. -/
def quote (input : CheckoutInput) (received : DateTime) (merchantId : Uuid)
    (capability : Option BenchmarkRunCapability) (credentialId : Option Uuid)
    (checked transactionTime : Instant) (checkoutId : Uuid) (lineId : Nat → Uuid) :
    Session CheckoutSession := do
  let command ← enforce (input.toCommand received merchantId)
  createCheckout command capability credentialId checked transactionTime checkoutId lineId

/-- The mandate that the call reads, once there is a command. -/
def quoteRead (input : CheckoutInput) (received : DateTime) (merchantId : Uuid)
    (capability : Option BenchmarkRunCapability) (database : Database) : Option SpendingMandate :=
  match input.toCommand received merchantId with
  | .error _ => none
  | .ok _ =>
      mandateRead merchantId capability (findMandate database input.mandateId merchantId) database

/-- What a request adds up to, at the prices of the catalog. -/
def CheckoutInput.amount (input : CheckoutInput) (database : Database) (merchantId : Uuid) : Int :=
  (input.items.map fun stated =>
    stated.quantity * (catalogPrice database merchantId stated.variantId : Int)).sum

/-- A line as it was requested, described as the catalog describes it. -/
structure LineQuoted (database : Database) (merchantId : Uuid) (stated : CheckoutItemInput)
    (line : CheckoutLine) (variant : Variant) (product : Product) : Prop where
  variantId : line.variantId = stated.variantId
  quantity : (line.quantity : Int) = stated.quantity
  found : findVariant database.variants merchantId stated.variantId = some variant
  ofProduct : database.products.get? variant.productId = some product
  price : line.unitPriceAmountMinor = variant.priceAmountMinor
  category : line.productCategory = product.category
  attributes : line.variantAttributes = variant.attributes

/-- What a stored quote carries: the requested values, the exact totals, and one event. -/
structure Quoted (input : CheckoutInput) (received : DateTime) (merchantId checkoutId : Uuid)
    (before : Database) (row : CheckoutSession) (after : Database) : Prop where
  id : row.id = checkoutId
  merchant : row.merchantId = merchantId
  mandate : row.mandateId = input.mandateId
  expiry : row.expiresAt = input.expiry received
  status : row.status = .isOpen
  lines : List.Forall₂
    (fun stated line => ∃ variant product,
      LineQuoted before merchantId stated line variant product ∧ variant.currency = row.currency)
    input.items row.lines
  subtotal : (row.subtotalAmountMinor : Int) = input.amount before merchantId
  additions : row.shippingAmountMinor = 0 ∧ row.discountAmountMinor = 0
  total : (row.totalAmountMinor : Int) = input.amount before merchantId
  written : ∃ checkouts event, before.checkouts.insert? row = some checkouts ∧
    event.eventType = .checkoutCreated ∧ event.resourceId = row.id ∧
    after =
      { before with
        checkouts := checkouts
        auditEvents := before.auditEvents ++ [event] }

/-- When an accepted request is stored if it gets as far: its mandate can be loaded, it expires
after the transaction began, and what it adds up to is an amount that a column holds. -/
def CheckoutInput.Storable (input : CheckoutInput) (received : DateTime) (merchantId : Uuid)
    (capability : Option BenchmarkRunCapability) (checked transactionTime : Instant)
    (database : Database) : Prop :=
  ∀ command, input.toCommand received merchantId = .ok command →
    Entered merchantId capability database →
      ∀ mandate, findMandate database input.mandateId merchantId = some mandate →
        mandate.isLoaded = true ∧
          (Quotable command checked database →
            transactionTime < input.expiry received ∧
              input.amount database merchantId ≤ maxBigInteger)

variable {input : CheckoutInput} {received : DateTime} {merchantId : Uuid}

theorem sum_amounts {price : Uuid → Nat} {stated : List CheckoutItemInput}
    (same : List.Forall₂ (fun stated item => item.variantId = stated.variantId ∧
      (item.quantity : Int) = stated.quantity) stated items) :
    (((items.map fun item => item.quantity * price item.variantId).sum : Nat) : Int) =
      (stated.map fun stated => stated.quantity * (price stated.variantId : Int)).sum := by
  induction same with
  | nil => rfl
  | cons same _ ih =>
      rw [List.map_cons, List.map_cons, List.sum_cons, List.sum_cons, ← ih, same.1, ← same.2]
      push_cast
      rfl

theorem amount_eq (isCommand : input.toCommand received merchantId = .ok command)
    (database : Database) :
    (quotedAmount database command : Int) = input.amount database merchantId := by
  obtain ⟨rfl, _, _, _, _, _, items⟩ := command_of_checkout isCommand
  exact sum_amounts items

theorem quote_eq (isCommand : input.toCommand received merchantId = .ok command) :
    quote input received merchantId capability credentialId checked transactionTime checkoutId
        lineId =
      createCheckout command capability credentialId checked transactionTime checkoutId lineId := by
  rw [quote, isCommand, enforce_ok_bind]

/-- The stored lines are the requested ones, as the catalog describes them. -/
theorem linesQuoted {stated : List CheckoutItemInput}
    (same : List.Forall₂ (fun stated item => item.variantId = stated.variantId ∧
      (item.quantity : Int) = stated.quantity) stated items)
    (offered : LinesOffered database merchantId items lines)
    (priced : ∀ item ∈ items, ∀ variant,
      findVariant database.variants merchantId item.variantId = some variant →
        variant.currency = currency) :
    List.Forall₂
      (fun stated line => ∃ variant product,
        LineQuoted database merchantId stated line variant product ∧ variant.currency = currency)
      stated (storedLines lineId lines) := by
  induction same generalizing lines lineId with
  | nil =>
      cases offered
      exact .nil
  | cons same _ ih =>
      cases offered with
      | cons isOffered later =>
          obtain ⟨variant, product, isOffered, rfl⟩ := isOffered
          rw [List.forall_mem_cons] at priced
          have found := isOffered.found
          rw [same.1] at found
          rw [storedLines, List.mapIdx_cons]
          refine .cons ⟨variant, product, ?_, priced.1 variant isOffered.found⟩
            (ih later priced.2)
          exact ⟨(findVariant_eq_some_iff.mp found).2.1, same.2, found, isOffered.ofProduct, rfl,
            rfl, rfl⟩

/-- A quote that is created carries what was requested. -/
theorem quoted_of_created (isCommand : input.toCommand received merchantId = .ok command)
    (created : createCheckout command capability credentialId checked transactionTime checkoutId
      lineId database = .ok (row, final)) :
    Quoted input received merchantId checkoutId database row final := by
  have amount := amount_eq isCommand database
  obtain ⟨rfl, mandateEq, expiryEq, noShipping, noDiscount, valid, items⟩ :=
    command_of_checkout isCommand
  obtain ⟨_, _, _, ⟨lines, currency, offered, isCurrency, written⟩, _, checkouts, inserted, rfl⟩ :=
    (createCheckout_eq_ok_iff valid).mp created
  obtain ⟨idEq, merchantEq, rowMandateEq, currencyEq, rowExpiryEq, _, _⟩ :=
    newCheckout_header written
  obtain ⟨statusEq, linesEq, _⟩ := newCheckout_eq_ok written
  obtain ⟨subtotal, shipping, discount, total⟩ :=
    newCheckout_amounts written noShipping noDiscount
  have quoted : (quotedSubtotal lines : Int) = input.amount database command.merchantId := by
    rw [offered.subtotal]
    exact amount
  constructor
  · exact idEq
  · exact merchantEq
  · exact rowMandateEq.trans mandateEq
  · exact rowExpiryEq.trans expiryEq
  · exact statusEq
  · have everyFound := found_of_offered (exists_lines_iff.mp ⟨lines, offered⟩)
    rw [linesEq, show row.currency = currency from currencyEq]
    apply linesQuoted items offered
    exact (singleCurrency_eq_ok_iff (validate_checkout_iff.mp valid).1 everyFound).mp isCurrency
  · rw [subtotal]
    exact quoted
  · exact ⟨shipping, discount⟩
  · rw [total]
    exact quoted
  · exact ⟨checkouts, _, inserted, rfl, rfl, rfl⟩

/-- The currency of a quote is one that a column holds. -/
theorem holdsCurrency_of_priced (sound : database.IsSound) (hasItems : command.items ≠ [])
    (offered : ∀ item ∈ command.items, ∃ variant product,
      Offered database command.merchantId item variant product)
    (priced : PricedIn database command currency) : holdsCurrency currency = true := by
  obtain ⟨first, rest, itemsEq⟩ := List.exists_cons_of_ne_nil hasItems
  have member : first ∈ command.items := by
    rw [itemsEq]
    exact List.mem_cons_self
  obtain ⟨variant, _, isOffered⟩ := offered first member
  have fits := sound.variant (findVariant_eq_some_iff.mp isOffered.found).1
  rw [← priced first member variant isOffered.found]
  simp only [Variant.fits, Bool.and_eq_true] at fits
  exact fits.1.1.2

/-- What the catalog offers at one price is a quote. -/
theorem exists_row (valid : command.validate = .ok ())
    (noDiscount : command.discountAmountMinor = 0)
    (offered : LinesOffered database command.merchantId command.items lines) (checkoutId : Uuid)
    (currency : String) (lineId : Nat → Uuid) :
    ∃ row, newCheckout (quoteHeader command checkoutId currency) lines lineId = .ok row := by
  obtain ⟨hasItems, few, distinct⟩ := validate_checkout_iff.mp valid
  have sameLength := offered.length_eq
  apply exists_newCheckout
  · rintro rfl
    exact hasItems (List.eq_nil_of_length_eq_zero sameLength)
  · rw [← sameLength]
    exact few
  · rw [offered.variantIds]
    exact distinct
  · exact noDiscount

/-- A database with one more quote fits exactly if the amount of the request does. -/
theorem fits_quote (sound : database.IsSound)
    (isCommand : input.toCommand received merchantId = .ok command)
    {checkouts : Table CheckoutSession}
    (offered : LinesOffered database command.merchantId command.items lines)
    (priced : PricedIn database command currency)
    (written : newCheckout (quoteHeader command checkoutId currency) lines lineId = .ok row)
    (inserted : database.checkouts.insert? row = some checkouts) :
    ({ database with
        checkouts := checkouts
        auditEvents := database.auditEvents ++
          [checkoutCreatedEvent row credentialId] } : Database).fits = true ↔
      input.amount database merchantId ≤ maxBigInteger := by
  have amount := amount_eq isCommand database
  obtain ⟨rfl, _, expiryEq, noShipping, noDiscount, valid, _⟩ := command_of_checkout isCommand
  have isHeld := holdsCurrency_of_priced sound (validate_checkout_iff.mp valid).1
    (exists_lines_iff.mp ⟨lines, offered⟩) priced
  have heldExpiry : holdsTimestamp command.expiresAt = true := by
    rw [expiryEq]
    exact holdsTimestamp_expiry input received
  have heldText : holdsText row.currency = true := by
    rw [(newCheckout_header written).2.2.2.1]
    exact holdsText_currency isHeld
  rw [fits_checkouts sound.fits (Table.insert?_eq_some_iff.mp inserted).2,
    fits_newCheckout sound offered written isHeld heldExpiry noShipping noDiscount,
    offered.subtotal, ← amount]
  simp only [fits_checkoutCreatedEvent credentialId heldText, and_true, Nat.cast_le]
  rfl

/-- A quote that has expired when it is written is refused by the database. -/
theorem createCheckout_of_expired (valid : command.validate = .ok ())
    (entered : Entered command.merchantId capability database)
    (found : ∃ mandate, findMandate database command.mandateId command.merchantId = some mandate)
    (expiry : validateCheckoutExpiry command.expiresAt checked = .ok ())
    (offered : LinesOffered database command.merchantId command.items lines)
    (isCurrency : singleCurrency database command = .ok currency)
    (written : newCheckout (quoteHeader command checkoutId currency) lines lineId = .ok row)
    (expired : row.expiresAt ≤ transactionTime) :
    createCheckout command capability credentialId checked transactionTime checkoutId lineId
        database = .error (.integrityError "ck_checkout_session_expiry_after_creation") := by
  obtain ⟨allowed, merchant, known⟩ := entered
  obtain ⟨mandate, found⟩ := found
  simp only [createCheckout, insertCheckout, requireAllowed, bind_assoc, enforce_bind_eq_error_iff,
    checking_bind_eq_error_iff, get_bind,
    require_bind_eq_error_iff, refuseWhen_bind_eq_error_iff,
    lift_bind, except_bind_eq_error_iff, mapM_quoteLine_eq_ok_iff]
  exact .inr ⟨⟨⟩, valid, .inr ⟨allowed, .inr ⟨merchant, known, .inr ⟨mandate, found,
    .inr ⟨⟨⟩, expiry, .inr ⟨lines, offered, .inr ⟨currency, isCurrency,
      .inr ⟨row, written, .inl ⟨expired, trivial⟩⟩⟩⟩⟩⟩⟩⟩⟩

/-- An accepted request settles exactly if, where it gets as far, the mandate that it reads can be
loaded, it expires after the transaction began, and its amount is one that a column holds. -/
theorem quote_settles_iff (request : CreateCheckoutRequest) (sound : database.IsSound)
    (fresh : ∀ other ∈ database.checkouts, other.id ≠ checkoutId) :
    (serve (quoteRead request.input received merchantId capability database)
        (quote request.input received merchantId capability credentialId checked transactionTime
          checkoutId lineId)
        database).Settles (Quoted request.input received merchantId checkoutId database) ↔
      request.input.Storable received merchantId capability checked transactionTime database := by
  cases isCommand : request.input.toCommand received merchantId with
  | error refusal =>
      have raised : quote request.input received merchantId capability credentialId checked
          transactionTime checkoutId lineId database = .error (.valueError refusal) := by
        rw [quote, isCommand]
        rfl
      have noRead : quoteRead request.input received merchantId capability database = none := by
        rw [quoteRead, isCommand]
      rw [serve, noRead, raised]
      refine iff_of_true trivial ?_
      intro command isOther
      rw [isCommand] at isOther
      cases isOther
  | ok command =>
      obtain ⟨rfl, mandateEq, expiryEq, _, noDiscount, valid, _⟩ :=
        command_of_checkout isCommand
      have hasItems := (validate_checkout_iff.mp valid).1
      have isRead : quoteRead request.input received command.merchantId capability database =
          mandateRead command.merchantId capability
            (findMandate database request.input.mandateId command.merchantId) database := by
        rw [quoteRead, isCommand]
      rw [quote_eq isCommand, settles_serve_iff, isRead]
      · constructor
        · rintro ⟨loaded, refusals, stored⟩ other isOther entered mandate found
          obtain rfl : command = other := Except.ok.inj (isCommand.symm.trans isOther)
          refine ⟨loaded mandate (mem_mandateRead_iff.mpr ⟨entered, found⟩), ?_⟩
          rintro ⟨expiry, everyOffered, currency, priced⟩
          rw [← mandateEq] at found
          obtain ⟨lines, offered⟩ := exists_lines_iff.mpr everyOffered
          have isCurrency :=
            (singleCurrency_eq_ok_iff hasItems (found_of_offered everyOffered)).mpr priced
          obtain ⟨row, written⟩ := exists_row valid noDiscount offered checkoutId currency lineId
          have rowExpiry : row.expiresAt = command.expiresAt := (newCheckout_header written).2.2.2.2.1
          have unexpired : transactionTime < row.expiresAt := by
            by_contra expired
            apply refusals "ck_checkout_session_expiry_after_creation"
            exact createCheckout_of_expired valid entered ⟨mandate, found⟩ expiry offered
              isCurrency written (not_lt.mp expired)
          obtain ⟨checkouts, inserted⟩ :
              ∃ checkouts, database.checkouts.insert? row = some checkouts := by
            apply exists_insert?
            intro other member
            rw [show Keyed.key row = checkoutId from (newCheckout_header written).1]
            exact fresh other member
          have final := stored _ _ ((createCheckout_eq_ok_iff valid).mpr
            ⟨entered, ⟨mandate, found⟩, expiry, ⟨lines, currency, offered, isCurrency, written⟩,
              unexpired, checkouts, inserted, rfl⟩)
          rw [← expiryEq, ← rowExpiry]
          exact ⟨unexpired, (fits_quote sound isCommand offered priced written inserted).mp final⟩
        · intro condition
          refine ⟨?_, ?_, ?_⟩
          · intro mandate read
            obtain ⟨entered, found⟩ := mem_mandateRead_iff.mp read
            exact (condition command isCommand entered mandate found).1
          · intro name refused
            obtain ⟨entered, ⟨mandate, found⟩, quotable, expired⟩ :=
              createCheckout_integrityError sound valid fresh refused
            rw [mandateEq] at found
            have unexpired :=
              ((condition command isCommand entered mandate found).2 quotable).1
            rw [← expiryEq] at unexpired
            exact not_lt.mpr expired unexpired
          · intro row final quoted
            obtain ⟨entered, ⟨mandate, found⟩, expiry,
                ⟨lines, currency, offered, isCurrency, written⟩, _, checkouts, inserted, rfl⟩ :=
              (createCheckout_eq_ok_iff valid).mp quoted
            rw [mandateEq] at found
            have everyOffered := exists_lines_iff.mp ⟨lines, offered⟩
            have priced :=
              (singleCurrency_eq_ok_iff hasItems (found_of_offered everyOffered)).mp isCurrency
            rw [fits_quote sound isCommand offered priced written inserted]
            exact ((condition command isCommand entered mandate found).2
              ⟨expiry, everyOffered, currency, priced⟩).2
      · intro row final quoted
        exact quoted_of_created isCommand quoted

end Call

end AgentRank.Checkout
