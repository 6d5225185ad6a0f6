import AgentRank.Checkout.Authorization
import AgentRank.Store.Session
import Mathlib.Data.List.Sort

/-!
# Stock reservations

This module models `inventory/repository.py` and `inventory/service.py`: holding
the stock a checkout quoted, binding a hold to a payment, giving it back, and
turning it into a sale.

The rows a call decides on are locked, so what it read earlier in the same
transaction is what the row still says.  A service function therefore takes the
reservation it decides on, as the source's does.
-/

namespace AgentRank.Inventory

open Checkout Constraints Relational Store Transaction

/-- Why stock was given back. -/
inductive ReleaseReason
  | checkoutCancelled
  | reservationRecovered
  | paymentDeclined
  | paymentNotExecuted
  | paymentAbandoned
  | benchmarkWorldPrepared
deriving DecidableEq

def ReleaseReason.value : ReleaseReason → String
  | checkoutCancelled => "checkout_cancelled"
  | reservationRecovered => "reservation_recovered"
  | paymentDeclined => "payment_declined"
  | paymentNotExecuted => "payment_not_executed"
  | paymentAbandoned => "payment_abandoned"
  | benchmarkWorldPrepared => "benchmark_world_prepared"

inductive InventoryViolationCode
  | insufficientInventory
  | reservationExpired
deriving DecidableEq

/-- One variant, what was wanted, and what was actually free. -/
structure InventoryViolation where
  code : InventoryViolationCode
  variantId : Option Uuid := none
  requestedQuantity : Option Nat := none
  availableQuantity : Option Nat := none
deriving DecidableEq

/-- What holding stock for one checkout produced. -/
structure ReservationOutcome where
  reservation : Option InventoryReservation := none
  created : Bool := false
  violations : List InventoryViolation := []

/-- The one reservation still holding stock for a checkout, if there is one. -/
def holdingForCheckout (database : Database) (checkoutId : Uuid) :
    Option InventoryReservation :=
  database.reservations.rows.find? fun reservation =>
    reservation.checkoutId == checkoutId && reservation.status.isHolding

/-- One merchant's variant. -/
def findVariant (variants : Table Variant) (merchantId variantId : Uuid) :
    Option Variant :=
  (variants.get? variantId).filter fun variant => variant.merchantId == merchantId

/-- The stock `lock_variants` reports for a variant, zero when it has no row. -/
def stockLevel (database : Database) (merchantId variantId : Uuid) : Nat :=
  (findVariant database.variants merchantId variantId).elim 0 Variant.inventoryQuantity

/-- How many units of a variant a list of reservation lines holds. -/
def unitsOf (lines : List InventoryReservationLine) (variantId : Uuid) : Nat :=
  ((lines.filter fun line => line.variantId == variantId).map
    InventoryReservationLine.quantity).sum

/-- `effective_reserved_quantities`, at one variant. -/
def effectiveReserved (database : Database) (variantId : Uuid) (instant : Instant) : Nat :=
  database.reservations.total fun reservation =>
    if isEffective reservation instant then unitsOf reservation.lines variantId else 0

/-- The lines a reservation for this checkout holds, in ascending variant
order. -/
def reservationLines (checkout : CheckoutSession) : List InventoryReservationLine :=
  (checkout.lines.map fun line =>
    { variantId := line.variantId, quantity := line.quantity }).insertionSort
      fun first second => first.variantId ≤ second.variantId

/-- `_shortfalls`: every line that cannot be held. -/
def shortfalls (database : Database) (checkout : CheckoutSession) (instant : Instant) :
    List InventoryViolation :=
  checkout.lines.filterMap fun line =>
    let stock := stockLevel database checkout.merchantId line.variantId
    let reserved := effectiveReserved database line.variantId instant
    if stock < line.quantity + reserved then
      some
        { code := .insufficientInventory
          variantId := some line.variantId
          requestedQuantity := some line.quantity
          availableQuantity := some (stock - reserved) }
    else none

variable {reservation : InventoryReservation} {database : Database}

/-- The hold of a checkout is a holding row that names it. -/
theorem holdingForCheckout_eq_some {checkoutId : Uuid}
    (found : holdingForCheckout database checkoutId = some reservation) :
    reservation ∈ database.reservations ∧ reservation.checkoutId = checkoutId ∧
      reservation.status.isHolding = true := by
  have matched := List.find?_some found
  rw [Bool.and_eq_true, beq_iff_eq] at matched
  exact ⟨List.mem_of_find?_eq_some found, matched⟩

/-- A checkout holds nothing exactly when no row that names it is holding. -/
theorem holdingForCheckout_eq_none_iff {checkoutId : Uuid} :
    holdingForCheckout database checkoutId = none ↔
      ∀ reservation ∈ database.reservations, reservation.checkoutId = checkoutId →
        reservation.status.isHolding = false := by
  simp [holdingForCheckout, List.find?_eq_none, Table.mem_def]

theorem findVariant_eq_some_iff {variants : Table Variant} {merchantId variantId : Uuid}
    {variant : Variant} :
    findVariant variants merchantId variantId = some variant ↔
      variant ∈ variants ∧ variant.id = variantId ∧ variant.merchantId = merchantId := by
  simp only [findVariant, Option.filter_eq_some_iff, Table.get?_eq_some_iff, beq_iff_eq,
    and_assoc]
  rfl

/-- Nothing is short exactly when every line fits beside what is held. -/
theorem shortfalls_eq_nil_iff {checkout : CheckoutSession} {instant : Instant} :
    shortfalls database checkout instant = [] ↔
      ∀ line ∈ checkout.lines,
        line.quantity + effectiveReserved database line.variantId instant ≤
          stockLevel database checkout.merchantId line.variantId := by
  unfold shortfalls
  rw [List.filterMap_eq_nil_iff]
  apply forall₂_congr
  intro line _
  simp only [ite_eq_right_iff, reduceCtorEq, imp_false, not_lt]

def linesPayload (lines : List InventoryReservationLine) : Json :=
  .array <| lines.map fun line =>
    .object
      [("variant_id", Payload.uuid line.variantId),
        ("quantity", Payload.number line.quantity)]

def reservedPayload (reservation : InventoryReservation) : List (String × Json) :=
  [("checkout_id", Payload.uuid reservation.checkoutId),
    ("expires_at", Payload.instant reservation.expiresAt),
    ("line_count", Payload.number reservation.lines.length),
    ("total_quantity", Payload.number reservation.totalQuantity),
    ("lines", linesPayload reservation.lines)]

def releasedPayload (reservation : InventoryReservation) (reason : ReleaseReason) :
    List (String × Json) :=
  [("checkout_id", Payload.uuid reservation.checkoutId),
    ("reason", Payload.text reason.value),
    ("status", Payload.text ReservationStatus.released.value),
    ("line_count", Payload.number reservation.lines.length),
    ("total_quantity", Payload.number reservation.totalQuantity)]

def consumedPayload (reservation : InventoryReservation) : List (String × Json) :=
  [("checkout_id", Payload.uuid reservation.checkoutId),
    ("status", Payload.text ReservationStatus.consumed.value),
    ("line_count", Payload.number reservation.lines.length),
    ("total_quantity", Payload.number reservation.totalQuantity),
    ("lines", linesPayload reservation.lines)]

def oversoldPayload (reservation : InventoryReservation)
    (missing : List InventoryReservationLine) : List (String × Json) :=
  [("checkout_id", Payload.uuid reservation.checkoutId),
    ("shortfalls", linesPayload missing)]

/-- The service's `_append`. -/
def appendReservationEvent (reservation : InventoryReservation) (eventType : EventType)
    (actorType : ActorType) (payload : List (String × Json)) : Session PUnit :=
  appendAudit
    { merchantId := reservation.merchantId
      actorType := actorType
      credentialId := none
      eventType := eventType
      resourceType := "inventory_reservation"
      resourceId := reservation.id
      payload := payload }

/-! ## Holding -/

theorem reservationLines_perm (checkout : CheckoutSession) :
    (reservationLines checkout).Perm
      (checkout.lines.map fun line =>
        { variantId := line.variantId, quantity := line.quantity }) :=
  List.perm_insertionSort _ _

theorem reservationLines_variantsNodup (checkout : CheckoutSession) :
    ((reservationLines checkout).map InventoryReservationLine.variantId).Nodup := by
  have samePerm :=
    (reservationLines_perm checkout).map InventoryReservationLine.variantId
  rw [samePerm.nodup_iff, List.map_map]
  exact checkout.variantsNodup

/-- The row `InventoryReservationRepository.create` writes: always active. -/
def newReservation (checkout : CheckoutSession) (reservationId : Uuid)
    (expiresAt : Instant) : InventoryReservation where
  id := reservationId
  merchantId := checkout.merchantId
  checkoutId := checkout.id
  status := .active
  expiresAt := expiresAt
  releasedAt := none
  consumedAt := none
  lines := reservationLines checkout
  variantsNodup := reservationLines_variantsNodup checkout

/-- Insert a reservation.  The two constraints the table names are translated
into the refusals they mean. -/
def insertReservation (row : InventoryReservation) (createdAt : Instant) :
    Session PUnit := do
  let database ← get
  Transaction.refuseWhen (row.expiresAt ≤ createdAt)
    (.conflict "reservation_expired"
      "this checkout can no longer hold stock for long enough to be worth holding"
      (some "checkout") (some (toString row.checkoutId)))
  Transaction.refuseWhen (holdingForCheckout database row.checkoutId).isSome
    (.conflict "reservation_already_active"
      "this checkout already holds an active reservation"
      (some "checkout") (some (toString row.checkoutId)))
  let reservations ←
    Transaction.require (database.reservations.insert? row)
      (.integrityError "pk_inventory_reservation")
  set { database with reservations := reservations }

/-- `lock_variants_for`, which refuses a checkout without lines. -/
def lockVariantsFor (checkout : CheckoutSession) : Session PUnit :=
  Transaction.refuseWhen checkout.lines.isEmpty
    (valueError "a checkout with no lines has no variant rows to lock")

/-- `InventoryReservationService.reserve`. -/
def reserve (checkout : CheckoutSession) (expiresAt instant transactionTime : Instant)
    (reservationId : Uuid) : Session ReservationOutcome := do
  Transaction.refuseWhen checkout.lines.isEmpty
    (valueError "a checkout with no lines cannot reserve inventory")
  let database ← get
  match holdingForCheckout database checkout.id with
  | some existing =>
      if isEffective existing instant then
        pure { reservation := some existing }
      else
        pure { violations := [{ code := .reservationExpired }] }
  | none =>
      let violations := shortfalls database checkout instant
      if violations.isEmpty then do
        let reservation := newReservation checkout reservationId expiresAt
        insertReservation reservation transactionTime
        appendReservationEvent reservation .inventoryReserved .buyer
          (reservedPayload reservation)
        pure { reservation := some reservation, created := true }
      else
        pure { violations := violations }

variable {final : Database} {transactionTime : Instant}

/-- What a committed reservation call did: nothing, or a fresh hold of lines
that all fit beside what was already held. -/
theorem reserve_eq_ok {checkout : CheckoutSession} {expiresAt instant : Instant}
    {reservationId : Uuid} {outcome : ReservationOutcome}
    (committed : reserve checkout expiresAt instant transactionTime reservationId database =
      .ok (outcome, final)) :
    final = database ∨
      holdingForCheckout database checkout.id = none ∧
      (∀ line ∈ checkout.lines,
        line.quantity + effectiveReserved database line.variantId instant ≤
          stockLevel database checkout.merchantId line.variantId) ∧
      ∃ reservations,
        database.reservations.insert? (newReservation checkout reservationId expiresAt) =
            some reservations ∧
          final =
            { database with
              reservations := reservations
              auditEvents := final.auditEvents } ∧
        Appends [.inventoryReserved] database final := by
  unfold reserve at committed
  simp only [bind_eq_ok_iff, refuseWhen_eq_ok_iff,
    get_eq_ok_iff] at committed
  obtain ⟨_, _, ⟨_, rfl⟩, _, database, ⟨rfl, rfl⟩, committed⟩ := committed
  cases held : holdingForCheckout database checkout.id with
  | some existing =>
      rw [held] at committed
      simp only at committed
      left
      split at committed
      · exact (pure_eq_ok_iff.mp committed).2
      · exact (pure_eq_ok_iff.mp committed).2
  | none =>
      rw [held] at committed
      simp only at committed
      split at committed
      · next fits =>
          simp only [insertReservation, appendReservationEvent, appendAudit_eq_ok_iff,
            bind_eq_ok_iff, refuseWhen_eq_ok_iff,
            get_eq_ok_iff, require_eq_ok_iff,
            set_eq_ok_iff, pure_eq_ok_iff] at committed
          obtain ⟨_, _, ⟨_, _, ⟨rfl, rfl⟩, _, _, ⟨_, rfl⟩, _, _, ⟨_, rfl⟩, reservations, _,
            ⟨inserted, rfl⟩, rfl⟩, _, _, rfl, _, rfl⟩ := committed
          exact Or.inr ⟨rfl, shortfalls_eq_nil_iff.mp (List.isEmpty_iff.mp fits),
            reservations, inserted, rfl, Appends.event (List.mem_singleton_self _) rfl⟩
      · exact Or.inl (pure_eq_ok_iff.mp committed).2

/-- Write one reservation row. -/
def updateReservation (row : InventoryReservation) : Session PUnit :=
  modify fun database => { database with reservations := database.reservations.set row }

/-- `commit_to_payment`: bind a hold to an admitted payment. -/
def commitToPayment (reservation : InventoryReservation) : Session Bool :=
  match reservation.status with
  | .committed => pure false
  | .active => do
      updateReservation { reservation with status := .committed }
      pure true
  | status =>
      throw (valueError s!"a {status.value} reservation cannot be committed to a payment")

/-- Binding a hold leaves it committed. -/
theorem commitToPayment_eq_ok {changed : Bool} (member : reservation ∈ database.reservations)
    (committed : commitToPayment reservation database = .ok (changed, final)) :
    reservation.status.isHolding = true ∧
      final =
        { database with
          reservations := database.reservations.set { reservation with status := .committed } } := by
  unfold commitToPayment at committed
  cases status : reservation.status with
  | active =>
      simp only [status, updateReservation, bind_eq_ok_iff,
        modify_eq_ok_iff, pure_eq_ok_iff] at committed
      obtain ⟨_, _, rfl, _, rfl⟩ := committed
      exact ⟨rfl, rfl⟩
  | committed =>
      have same : { reservation with status := .committed } = reservation := by
        rw [← status]
      simp only [status, pure_eq_ok_iff] at committed
      rw [same, Table.set_of_mem member]
      exact ⟨rfl, committed.2⟩
  | released => simp only [status, throw_eq_ok_iff] at committed
  | consumed => simp only [status, throw_eq_ok_iff] at committed

/-- `InventoryReservationService.release`: give the stock back, once. -/
def release (reservation : InventoryReservation) (reason : ReleaseReason)
    (transactionTime : Instant) : Session Bool :=
  match reservation.status with
  | .released => pure false
  | .consumed => throw (valueError "a consumed reservation cannot be released")
  | _ => do
      let released :=
        { reservation with status := .released, releasedAt := some transactionTime }
      updateReservation released
      appendReservationEvent released .inventoryReleased .buyer
        (releasedPayload released reason)
      pure true

/-- Giving a hold back leaves it released, and says so at most once. -/
theorem release_eq_ok {reason : ReleaseReason} {changed : Bool}
    (member : reservation ∈ database.reservations)
    (committed : release reservation reason transactionTime database = .ok (changed, final)) :
    reservation.status ≠ .consumed ∧
      Appends [.inventoryReleased] database final ∧
      ∃ releasedAt,
        final =
          { database with
            reservations :=
              database.reservations.set
                { reservation with status := .released, releasedAt := releasedAt }
            auditEvents := final.auditEvents } := by
  unfold release at committed
  cases status : reservation.status with
  | released =>
      have same :
          { reservation with status := .released, releasedAt := reservation.releasedAt } =
            reservation := by
        rw [← status]
      simp only [status, pure_eq_ok_iff] at committed
      obtain ⟨_, rfl⟩ := committed
      refine ⟨nofun, Appends.refl _ _, reservation.releasedAt, ?_⟩
      rw [same, Table.set_of_mem member]
  | consumed => simp only [status, throw_eq_ok_iff] at committed
  | active | committed =>
      simp only [status, updateReservation, appendReservationEvent, appendAudit_eq_ok_iff,
        bind_eq_ok_iff, modify_eq_ok_iff,
        pure_eq_ok_iff] at committed
      obtain ⟨_, _, rfl, _, _, rfl, _, rfl⟩ := committed
      exact ⟨nofun, Appends.event (List.mem_singleton_self _) rfl, some transactionTime, rfl⟩

/-- `release_for_checkout`: release whatever a checkout is holding. -/
def releaseForCheckout (checkoutId : Uuid) (reason : ReleaseReason)
    (transactionTime : Instant) : Session Bool := do
  match holdingForCheckout (← get) checkoutId with
  | none => pure false
  | some reservation => release reservation reason transactionTime

/-! ## Selling -/

/-- One turn of the loop in `consume_stock`: take units of one variant out of its
stock, and note what was missing. -/
def consumeLine (merchantId : Uuid)
    (taken : Table Variant × List InventoryReservationLine)
    (line : InventoryReservationLine) : Table Variant × List InventoryReservationLine :=
  match findVariant taken.1 merchantId line.variantId with
  | none => (taken.1, taken.2 ++ [line])
  | some variant =>
      let units := min line.quantity variant.inventoryQuantity
      (taken.1.set { variant with inventoryQuantity := variant.inventoryQuantity - units },
        if units < line.quantity then
          taken.2 ++ [{ line with quantity := line.quantity - units }]
        else taken.2)

/-- `consume_stock`, over the lines in ascending variant order. -/
def consumeStock (merchantId : Uuid) (variants : Table Variant)
    (lines : List InventoryReservationLine) :
    Table Variant × List InventoryReservationLine :=
  (lines.insertionSort fun first second => first.variantId ≤ second.variantId).foldl
    (consumeLine merchantId) (variants, [])

/-- `InventoryReservationService.consume`: turn a committed hold into a permanent
sale, stock included. -/
def consume (reservation : InventoryReservation) (transactionTime : Instant) :
    Session Bool :=
  match reservation.status with
  | .consumed => pure false
  | .committed => do
      let consumed :=
        { reservation with status := .consumed, consumedAt := some transactionTime }
      updateReservation consumed
      let database ← get
      let sold := consumeStock reservation.merchantId database.variants reservation.lines
      set { database with variants := sold.1 }
      appendReservationEvent consumed .inventoryConsumed .paymentProvider
        (consumedPayload consumed)
      if sold.2.isEmpty then pure true
      else do
        appendReservationEvent consumed .inventoryOversold .paymentProvider
          (oversoldPayload consumed sold.2)
        pure true
  | status =>
      throw (valueError s!"a {status.value} reservation cannot be consumed by a payment")

/-- A committed hold can be sold. -/
theorem consume_total (committed : reservation.status = .committed) (transactionTime : Instant) :
    (consume reservation transactionTime).Total := by
  unfold consume
  rw [committed]
  apply Transaction.Total.bind (Transaction.Total.modify _)
  intro _
  apply Transaction.Total.bind Transaction.Total.get
  intro database
  apply Transaction.Total.bind (Transaction.Total.set _)
  intro _
  apply Transaction.Total.bind (Transaction.Total.modify _)
  intro _
  split
  · exact Transaction.Total.pure true
  · apply Transaction.Total.bind (Transaction.Total.modify _)
    intro _
    exact Transaction.Total.pure true

/-- Selling a hold leaves it consumed, and takes its lines out of the stock once. -/
theorem consume_eq_ok {changed : Bool} (member : reservation ∈ database.reservations)
    (committed : consume reservation transactionTime database = .ok (changed, final)) :
    Appends [.inventoryConsumed, .inventoryOversold] database final ∧
      ∃ consumedAt variants,
        final =
          { database with
            reservations :=
              database.reservations.set
                { reservation with status := .consumed, consumedAt := consumedAt }
            variants := variants
            auditEvents := final.auditEvents } ∧
        (reservation.status = .consumed ∧ variants = database.variants ∨
          reservation.status = .committed ∧
            variants =
              (consumeStock reservation.merchantId database.variants reservation.lines).1) := by
  unfold consume at committed
  cases status : reservation.status with
  | consumed =>
      have same :
          { reservation with status := .consumed, consumedAt := reservation.consumedAt } =
            reservation := by
        rw [← status]
      simp only [status, pure_eq_ok_iff] at committed
      obtain ⟨_, rfl⟩ := committed
      refine ⟨Appends.refl _ _, reservation.consumedAt, final.variants, ?_, Or.inl ⟨rfl, rfl⟩⟩
      rw [same, Table.set_of_mem member]
  | committed =>
      simp only [status, updateReservation, appendReservationEvent, appendAudit_eq_ok_iff,
        bind_eq_ok_iff, modify_eq_ok_iff,
        get_eq_ok_iff, set_eq_ok_iff] at committed
      obtain ⟨_, _, rfl, _, _, ⟨rfl, rfl⟩, _, _, rfl, _, _, rfl, committed⟩ := committed
      split at committed
      · obtain ⟨_, rfl⟩ := pure_eq_ok_iff.mp committed
        refine ⟨Appends.event ?_ rfl, some transactionTime, _, rfl, Or.inr ⟨rfl, rfl⟩⟩
        exact List.mem_cons_self
      · simp only [appendAudit_eq_ok_iff, bind_eq_ok_iff,
          pure_eq_ok_iff] at committed
        obtain ⟨_, _, rfl, _, rfl⟩ := committed
        refine ⟨⟨_, ?_, List.append_assoc _ _ _⟩, some transactionTime, _, rfl,
          Or.inr ⟨rfl, rfl⟩⟩
        exact List.forall_mem_cons.mpr
          ⟨List.mem_cons_self, List.forall_mem_singleton.mpr (List.mem_of_mem_tail List.mem_cons_self)⟩
  | active => simp only [status, throw_eq_ok_iff] at committed
  | released => simp only [status, throw_eq_ok_iff] at committed

end AgentRank.Inventory
