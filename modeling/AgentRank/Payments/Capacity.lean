import AgentRank.Inventory.Stock
import AgentRank.Payments.Operations

/-!
# What is held is on the shelf

While nobody edits stock and the clock does not run backwards, the units that standing
holds claim never exceed what is on the shelf, whatever the services do in whatever
order.  So selling a committed hold never comes up short, and everything that left the
shelf was sold.
-/

namespace AgentRank.Payments

open Checkout Inventory Relational Store Text Transition

/-- Leaving the stock of every variant to the payment services. -/
def leavesStock : Allowance where
  releases _ := True
  restocks before after := ∀ variantId, shelf after variantId = shelf before variantId

/-- The units of a variant that one hold claims at an instant. -/
def claimed (reservation : InventoryReservation) (variantId : Uuid) (instant : Instant) : Nat :=
  if isEffective reservation instant then unitsOf reservation.lines variantId else 0

/-- The units of a variant that one hold has sold. -/
def sold (reservation : InventoryReservation) (variantId : Uuid) : Nat :=
  if reservation.status = .consumed then unitsOf reservation.lines variantId else 0

/-- The units of a variant that were sold. -/
def soldUnits (reservations : Table InventoryReservation) (variantId : Uuid) : Nat :=
  reservations.total fun reservation => sold reservation variantId

section Units

variable {reservations result : Table InventoryReservation}
  {reservation : InventoryReservation}

/-- Claims only lapse as the clock moves on. -/
theorem heldUnits_le_of_le (reservations : Table InventoryReservation) (variantId : Uuid)
    {earlier later : Instant} (le : earlier ≤ later) :
    heldUnits reservations variantId later ≤ heldUnits reservations variantId earlier := by
  apply Table.total_le_total
  intro reservation _
  cases effective : isEffective reservation later with
  | true => simp [isEffective_of_le le effective]
  | false => simp

/-- A hold claims at most what is held. -/
theorem claimed_le_heldUnits (member : reservation ∈ reservations) (variantId : Uuid)
    (instant : Instant) :
    claimed reservation variantId instant ≤ heldUnits reservations variantId instant := by
  unfold heldUnits
  apply Table.le_total member

theorem heldUnits_set (row : InventoryReservation) (member : reservation ∈ reservations)
    (sameId : row.id = reservation.id)
    (variantId : Uuid) (instant : Instant) :
    heldUnits (reservations.set row) variantId instant + claimed reservation variantId instant =
      heldUnits reservations variantId instant + claimed row variantId instant :=
  Table.total_set (fun reservation => claimed reservation variantId instant) member sameId.symm

theorem soldUnits_set (row : InventoryReservation) (member : reservation ∈ reservations)
    (sameId : row.id = reservation.id)
    (variantId : Uuid) :
    soldUnits (reservations.set row) variantId + sold reservation variantId =
      soldUnits reservations variantId + sold row variantId :=
  Table.total_set (fun reservation => sold reservation variantId) member sameId.symm

theorem heldUnits_insert {row : InventoryReservation}
    (inserted : reservations.insert? row = some result) (variantId : Uuid)
    (instant : Instant) :
    heldUnits result variantId instant =
      heldUnits reservations variantId instant + claimed row variantId instant :=
  Table.total_of_rows_append (Table.insert?_eq_some_iff.mp inserted).2

theorem soldUnits_insert {row : InventoryReservation}
    (inserted : reservations.insert? row = some result)
    (variantId : Uuid) :
    soldUnits result variantId = soldUnits reservations variantId + sold row variantId :=
  Table.total_of_rows_append (Table.insert?_eq_some_iff.mp inserted).2

end Units

/-- All that is held of the variant of a line is on the shelf of its merchant. -/
def Fits (ledger : Ledger) (now : Instant) (merchantId variantId : Uuid) : Prop :=
  ∃ quantity, shelf ledger.variants variantId = some (merchantId, quantity) ∧
    heldUnits ledger.reservations variantId now ≤ quantity

/-- Every standing claim is on the shelf, and what left the shelf was sold. -/
structure Stocked (initial : Table Variant) (now : Instant) (ledger : Ledger) : Prop where
  quotePositive : ∀ checkout ∈ ledger.checkouts, ∀ line ∈ checkout.lines, 0 < line.quantity
  linePositive : ∀ reservation ∈ ledger.reservations, ∀ line ∈ reservation.lines,
    0 < line.quantity
  fits : ∀ reservation ∈ ledger.reservations, isEffective reservation now = true →
    ∀ line ∈ reservation.lines, Fits ledger now reservation.merchantId line.variantId
  conserved : TakesOff initial ledger.variants (soldUnits ledger.reservations)

variable {reservation : InventoryReservation}

theorem isEffective_of_committed (isCommitted : reservation.status = .committed)
    (instant : Instant) :
    isEffective reservation instant = true := by
  unfold isEffective
  rw [isCommitted]

theorem claimed_of_committed (isCommitted : reservation.status = .committed) (variantId : Uuid)
    (instant : Instant) :
    claimed reservation variantId instant = unitsOf reservation.lines variantId := by
  unfold claimed
  rw [isEffective_of_committed isCommitted, if_pos rfl]

namespace Stocked

variable {initial : Table Variant} {now : Instant} {ledger : Ledger}

/-- Time passing lets claims lapse and nothing else. -/
theorem later (stocked : Stocked initial now ledger) {instant : Instant} (le : now ≤ instant) :
    Stocked initial instant ledger where
  quotePositive := stocked.quotePositive
  linePositive := stocked.linePositive
  fits reservation held effective line lineMem := by
    obtain ⟨quantity, onShelf, enough⟩ :=
      stocked.fits reservation held (isEffective_of_le le effective) line lineMem
    exact ⟨quantity, onShelf, (heldUnits_le_of_le _ _ le).trans enough⟩
  conserved := stocked.conserved

/-- Every variant has on the shelf what is held of it. -/
theorem heldUnits_le (stocked : Stocked initial now ledger) {variant : Variant}
    (member : variant ∈ ledger.variants) :
    heldUnits ledger.reservations variant.id now ≤ variant.inventoryQuantity := by
  by_contra! exceeds
  have positive : 0 < heldUnits ledger.reservations variant.id now := by omega
  obtain ⟨reservation, held, claims⟩ : ∃ reservation ∈ ledger.reservations,
      0 < claimed reservation variant.id now := by
    by_contra! none
    have nothing : heldUnits ledger.reservations variant.id now ≤
        ledger.reservations.total fun _ => 0 :=
      Table.total_le_total none
    simp [Table.total] at nothing
    omega
  have effective : isEffective reservation now = true := by
    by_contra lapsed
    simp [claimed, lapsed] at claims
  rw [claimed, if_pos effective] at claims
  obtain ⟨line, lineMem, named⟩ := exists_line_of_unitsOf_pos claims
  obtain ⟨quantity, onShelf, enough⟩ := stocked.fits reservation held effective line lineMem
  rw [named] at onShelf enough
  rw [shelf_of_mem member, Option.some.injEq, Prod.mk.injEq] at onShelf
  omega

/-- A committed hold is covered line by line. -/
theorem covered (stocked : Stocked initial now ledger) (held : reservation ∈ ledger.reservations)
    (isCommitted : reservation.status = .committed) :
    ∀ line ∈ reservation.lines, Covered reservation.merchantId ledger.variants line := by
  intro line lineMem
  obtain ⟨quantity, onShelf, enough⟩ :=
    stocked.fits reservation held (isEffective_of_committed isCommitted now) line lineMem
  refine ⟨quantity, onShelf, ?_⟩
  have claims := claimed_le_heldUnits held line.variantId now
  rw [claimed_of_committed isCommitted,
    unitsOf_of_mem reservation.variantsNodup lineMem] at claims
  exact claims.trans enough

/-- Selling a committed hold never comes up short. -/
theorem no_shortfall (stocked : Stocked initial now ledger)
    (held : reservation ∈ ledger.reservations) (isCommitted : reservation.status = .committed) :
    (consumeStock reservation.merchantId ledger.variants reservation.lines).2 = [] :=
  (consumeStock_of_covered reservation.variantsNodup (stocked.covered held isCommitted)).1

/-! ## Each movement keeps the shelf covered -/

/-- Rewriting a hold without reviving, selling or unselling it. -/
theorem rehold (stocked : Stocked initial now ledger) (row : InventoryReservation)
    (held : reservation ∈ ledger.reservations) (sameId : row.id = reservation.id)
    (sameMerchant : row.merchantId = reservation.merchantId)
    (sameLines : row.lines = reservation.lines)
    (revivesNothing : isEffective row now = true → isEffective reservation now = true)
    (sameSale : row.status = .consumed ↔ reservation.status = .consumed) :
    Stocked initial now { ledger with reservations := ledger.reservations.set row } := by
  have heldLess : ∀ variantId,
      heldUnits (ledger.reservations.set row) variantId now ≤
        heldUnits ledger.reservations variantId now := by
    intro variantId
    have moved := heldUnits_set row held sameId variantId now
    have claimsLess : claimed row variantId now ≤ claimed reservation variantId now := by
      unfold claimed
      rw [sameLines]
      cases effective : isEffective row now with
      | true => rw [revivesNothing effective]
      | false => simp
    omega
  have rows : ∀ {other}, other ∈ ledger.reservations.set row →
      other = row ∨ other ∈ ledger.reservations ∧ other ≠ reservation :=
    (Table.mem_set_iff_ne held sameId.symm).mp
  refine ⟨stocked.quotePositive, ?_, ?_, ?_⟩
  · intro other otherMem
    rcases rows otherMem with rfl | ⟨old, _⟩
    · rw [sameLines]
      exact stocked.linePositive reservation held
    · exact stocked.linePositive other old
  · intro other otherMem effective line lineMem
    rcases rows otherMem with rfl | ⟨old, _⟩
    · rw [sameLines] at lineMem
      obtain ⟨quantity, onShelf, enough⟩ :=
        stocked.fits reservation held (revivesNothing effective) line lineMem
      rw [← sameMerchant] at onShelf
      exact ⟨quantity, onShelf, (heldLess _).trans enough⟩
    · obtain ⟨quantity, onShelf, enough⟩ := stocked.fits other old effective line lineMem
      exact ⟨quantity, onShelf, (heldLess _).trans enough⟩
  · intro variantId
    have moved := soldUnits_set row held sameId variantId
    have sameSold : sold row variantId = sold reservation variantId := by
      unfold sold
      rw [sameLines, if_congr sameSale rfl rfl]
    have sameTotal : soldUnits (ledger.reservations.set row) variantId =
        soldUnits ledger.reservations variantId := by omega
    change shelf initial variantId = (shelf ledger.variants variantId).map
      (plus (soldUnits (ledger.reservations.set row) variantId))
    rw [sameTotal, stocked.conserved variantId]

/-- A committed hold is sold, and its units leave the shelf. -/
theorem sell (stocked : Stocked initial now ledger) (held : reservation ∈ ledger.reservations)
    (isCommitted : reservation.status = .committed) (consumedAt : Option Instant) :
    Stocked initial now
      { ledger with
        variants := (consumeStock reservation.merchantId ledger.variants reservation.lines).1
        reservations := ledger.reservations.set (consumedRow reservation consumedAt) } := by
  obtain ⟨_, takesOff⟩ :=
    consumeStock_of_covered reservation.variantsNodup (stocked.covered held isCommitted)
  have rows : ∀ {other}, other ∈ ledger.reservations.set (consumedRow reservation consumedAt) →
      other = consumedRow reservation consumedAt ∨
        other ∈ ledger.reservations ∧ other ≠ reservation :=
    (Table.mem_set_iff_ne held (by exact rfl)).mp
  refine ⟨stocked.quotePositive, ?_, ?_, ?_⟩
  · intro other otherMem
    rcases rows otherMem with rfl | ⟨old, _⟩
    · exact stocked.linePositive reservation held
    · exact stocked.linePositive other old
  · intro other otherMem effective line lineMem
    rcases rows otherMem with rfl | ⟨old, _⟩
    · cases effective
    · obtain ⟨quantity, onShelf, enough⟩ := stocked.fits other old effective line lineMem
      have taken := takesOff line.variantId
      rw [onShelf] at taken
      obtain ⟨⟨merchantId, rest⟩, onShelfNow, entryEq⟩ := Option.map_eq_some_iff.mp taken.symm
      simp only [plus, Prod.mk.injEq] at entryEq
      obtain ⟨rfl, restEq⟩ := entryEq
      have moved :
          heldUnits (ledger.reservations.set (consumedRow reservation consumedAt))
              line.variantId now + claimed reservation line.variantId now =
            heldUnits ledger.reservations line.variantId now +
              claimed (consumedRow reservation consumedAt) line.variantId now :=
        heldUnits_set (consumedRow reservation consumedAt) held rfl line.variantId now
      rw [claimed_of_committed isCommitted] at moved
      have noClaim : claimed (consumedRow reservation consumedAt) line.variantId now = 0 := rfl
      refine ⟨rest, onShelfNow, ?_⟩
      change heldUnits (ledger.reservations.set (consumedRow reservation consumedAt))
        line.variantId now ≤ rest
      omega
  · intro variantId
    have moved :
        soldUnits (ledger.reservations.set (consumedRow reservation consumedAt)) variantId +
            sold reservation variantId =
          soldUnits ledger.reservations variantId +
            sold (consumedRow reservation consumedAt) variantId :=
      soldUnits_set (consumedRow reservation consumedAt) held rfl variantId
    have unsold : sold reservation variantId = 0 := by
      simp [sold, isCommitted]
    have nowSold : sold (consumedRow reservation consumedAt) variantId =
        unitsOf reservation.lines variantId := rfl
    have total :
        soldUnits (ledger.reservations.set (consumedRow reservation consumedAt)) variantId =
          unitsOf reservation.lines variantId + soldUnits ledger.reservations variantId := by
      omega
    change shelf initial variantId = (shelf _ variantId).map
      (plus (soldUnits (ledger.reservations.set (consumedRow reservation consumedAt)) variantId))
    rw [total]
    exact stocked.conserved.trans takesOff variantId

/-- A fresh hold fits beside what was held. -/
theorem reserve (stocked : Stocked initial now ledger) {checkout : CheckoutSession}
    {reservationId : Uuid} {expiresAt evaluatedAt : Instant}
    {reservations : Table InventoryReservation} (quoted : checkout ∈ ledger.checkouts)
    (inTime : evaluatedAt ≤ now)
    (fits : ∀ line ∈ checkout.lines,
      line.quantity + heldUnits ledger.reservations line.variantId evaluatedAt ≤
        stockOf ledger.variants checkout.merchantId line.variantId)
    (inserted :
      ledger.reservations.insert? (newReservation checkout reservationId expiresAt) =
        some reservations) :
    Stocked initial now { ledger with reservations := reservations } := by
  have fromQuote : ∀ line ∈ reservationLines checkout, ∃ quoteLine ∈ checkout.lines,
      quoteLine.variantId = line.variantId ∧ quoteLine.quantity = line.quantity := by
    intro line lineMem
    rw [(reservationLines_perm checkout).mem_iff, List.mem_map] at lineMem
    obtain ⟨quoteLine, quoteLineMem, rfl⟩ := lineMem
    exact ⟨quoteLine, quoteLineMem, rfl, rfl⟩
  -- Where the fresh hold claims a variant, the check of the reservation counted it.
  have freshFits : ∀ line ∈ reservationLines checkout,
      ∃ quantity, shelf ledger.variants line.variantId = some (checkout.merchantId, quantity) ∧
        heldUnits reservations line.variantId now ≤ quantity := by
    intro line lineMem
    obtain ⟨quoteLine, quoteLineMem, sameVariant, sameQuantity⟩ := fromQuote line lineMem
    have positive := stocked.quotePositive checkout quoted quoteLine quoteLineMem
    have enough := fits quoteLine quoteLineMem
    rw [sameVariant] at enough
    have lapsed := heldUnits_le_of_le ledger.reservations line.variantId inTime
    have claims : claimed (newReservation checkout reservationId expiresAt) line.variantId now ≤
        line.quantity := by
      have units :=
        unitsOf_of_mem (newReservation checkout reservationId expiresAt).variantsNodup lineMem
      unfold claimed
      split
      · exact units.le
      · exact Nat.zero_le _
    have total := heldUnits_insert inserted line.variantId now
    cases found : findVariant ledger.variants checkout.merchantId line.variantId with
    | none =>
        simp only [stockOf, found, Option.elim_none] at enough
        omega
    | some variant =>
        simp only [stockOf, found, Option.elim_some] at enough
        refine ⟨variant.inventoryQuantity, shelf_eq_some_iff.mpr ⟨variant, found, rfl⟩, ?_⟩
        omega
  refine ⟨stocked.quotePositive, ?_, ?_, ?_⟩
  · intro other otherMem
    rcases (Table.mem_insert?_iff inserted).mp otherMem with old | rfl
    · exact stocked.linePositive other old
    · intro line lineMem
      obtain ⟨quoteLine, quoteLineMem, _, sameQuantity⟩ := fromQuote line lineMem
      rw [← sameQuantity]
      exact stocked.quotePositive checkout quoted quoteLine quoteLineMem
  · intro other otherMem effective line lineMem
    rcases (Table.mem_insert?_iff inserted).mp otherMem with old | rfl
    · obtain ⟨quantity, onShelf, enough⟩ := stocked.fits other old effective line lineMem
      refine ⟨quantity, onShelf, ?_⟩
      by_cases claims :
          0 < unitsOf (newReservation checkout reservationId expiresAt).lines line.variantId
      · obtain ⟨fresh, freshMem, sameVariant⟩ := exists_line_of_unitsOf_pos claims
        obtain ⟨stock, freshShelf, freshEnough⟩ := freshFits fresh freshMem
        rw [sameVariant, onShelf, Option.some.injEq, Prod.mk.injEq] at freshShelf
        rw [sameVariant] at freshEnough
        change heldUnits reservations line.variantId now ≤ quantity
        omega
      · have total := heldUnits_insert inserted line.variantId now
        have noClaim :
            claimed (newReservation checkout reservationId expiresAt) line.variantId now = 0 := by
          unfold claimed
          split <;> omega
        change heldUnits reservations line.variantId now ≤ quantity
        omega
    · exact freshFits line lineMem
  · intro variantId
    have total := soldUnits_insert inserted variantId
    have unsold : sold (newReservation checkout reservationId expiresAt) variantId = 0 := rfl
    rw [unsold, add_zero] at total
    change shelf initial variantId = (shelf ledger.variants variantId).map
      (plus (soldUnits reservations variantId))
    rw [total, stocked.conserved variantId]

/-- A row for a quote keeps the quantities positive when its lines are. -/
theorem quote (stocked : Stocked initial now ledger) {checkouts : Table CheckoutSession}
    (positive : ∀ checkout ∈ checkouts, ∀ line ∈ checkout.lines, 0 < line.quantity) :
    Stocked initial now { ledger with checkouts := checkouts } :=
  ⟨positive, stocked.linePositive, stocked.fits, stocked.conserved⟩

/-- Rewriting a quote keeps its lines. -/
theorem requote (stocked : Stocked initial now ledger) (row : CheckoutSession)
    {checkout : CheckoutSession} (quoted : checkout ∈ ledger.checkouts) (sameId : row.id = checkout.id)
    (sameLines : row.lines = checkout.lines) :
    Stocked initial now { ledger with checkouts := ledger.checkouts.set row } := by
  apply stocked.quote
  intro other otherMem
  rcases (Table.mem_set_iff_ne quoted sameId.symm).mp otherMem with rfl | ⟨old, _⟩
  · rw [sameLines]
    exact stocked.quotePositive checkout quoted
  · exact stocked.quotePositive other old

/-- What the ledger says about attempts and outcomes does not concern the shelf. -/
theorem elsewhere (stocked : Stocked initial now ledger) (attempts : Table PaymentAttempt)
    (trail : List AuditEvent) :
    Stocked initial now { ledger with attempts := attempts, trail := trail } :=
  ⟨stocked.quotePositive, stocked.linePositive, stocked.fits, stocked.conserved⟩

/-- Giving a standing hold back frees its units. -/
theorem giveBack (stocked : Stocked initial now ledger) (held : reservation ∈ ledger.reservations)
    (unsold : reservation.status ≠ .consumed) (releasedAt : Option Instant) :
    Stocked initial now
      { ledger with
        reservations := ledger.reservations.set (releasedRow reservation releasedAt) } := by
  apply stocked.rehold (releasedRow reservation releasedAt) held rfl rfl rfl
  · nofun
  · exact ⟨nofun, fun sold => absurd sold unsold⟩

theorem ne_consumed_of_isHolding {status : ReservationStatus}
    (holding : status.isHolding = true) : status ≠ .consumed := by
  rintro rfl
  cases holding

/-- Every movement keeps the shelf covered at the instant at which its locks are
held. -/
theorem movement (stocked : Stocked initial now ledger) {clock : Readings} {next : Ledger}
    (onward : now ≤ clock.admittedAt) (inTime : clock.evaluatedAt ≤ clock.admittedAt)
    (movement : Movement leavesStock clock ledger next) :
    Stocked initial clock.admittedAt next := by
  replace stocked := stocked.later onward
  cases movement with
  | untouched => exact stocked
  | restocked variants allowed =>
      refine ⟨stocked.quotePositive, stocked.linePositive, ?_, ?_⟩
      · intro reservation held effective line lineMem
        obtain ⟨quantity, onShelf, enough⟩ := stocked.fits reservation held effective line lineMem
        exact ⟨quantity, (allowed line.variantId).trans onShelf, enough⟩
      · intro variantId
        rw [stocked.conserved variantId, allowed variantId]
  | quoted checkout checkouts isOpen isQuote positive inserted =>
      apply stocked.quote
      intro other otherMem
      rcases (Table.mem_insert?_iff inserted).mp otherMem with old | rfl
      · exact stocked.quotePositive other old
      · exact positive
  | reserved checkout reservationId expiresAt reservations member isOpen none fits inserted =>
      exact stocked.reserve member inTime fits inserted
  | admitted checkout reservation key attemptId attempts member isOpen hasLines held names
      holding effective =>
      have kept := stocked.rehold { reservation with status := .committed } held rfl rfl rfl
        (fun _ => effective)
        ⟨nofun, fun sold => absurd sold (ne_consumed_of_isHolding holding)⟩
      exact kept.elsewhere attempts ledger.trail
  | dispatched | clouded | disputed => exact stocked.elsewhere _ _
  | succeeded attempt checkout reservation reference source paidAt consumedAt variants event
      member isDispatched named namedId held heldId notCancelled stock =>
      rcases stock with ⟨wasSold, rfl⟩ | ⟨isCommitted, rfl⟩
      · have kept := stocked.rehold (consumedRow reservation consumedAt) held rfl rfl rfl nofun
          ⟨fun _ => wasSold, fun _ => rfl⟩
        exact (kept.requote { checkout with status := .paid, paidAt := paidAt } named rfl
          rfl).elsewhere _ _
      · have taken := stocked.sell held isCommitted consumedAt
        exact (taken.requote { checkout with status := .paid, paidAt := paidAt } named rfl
          rfl).elsewhere _ _
  | failed attempt reservation failureCode reference source releasedAt event member
      isDispatched held heldId notConsumed =>
      exact (stocked.giveBack held notConsumed releasedAt).elsewhere _ _
  | withdrawn checkout cancelledAt reservations member unpaid noneOpen givesBack =>
      have returned :
          Stocked initial clock.admittedAt { ledger with reservations := reservations } := by
        cases givesBack with
        | nothing none => exact stocked
        | hold reservation releasedAt held names holding =>
            exact stocked.giveBack held (ne_consumed_of_isHolding holding) releasedAt
      exact returned.requote { checkout with status := .cancelled, cancelledAt := cancelledAt }
        member rfl rfl
  | released reservation releasedAt held holding allowed =>
      exact stocked.giveBack held (ne_consumed_of_isHolding holding) releasedAt

end Stocked

section Runs

variable [CaseFolding] [OperationDigest] [PrintableText]

/-- One step of the system under a clock, which then shows when its locks were held. -/
def tick (call : Operation × Readings) (state : Instant × Database) : Instant × Database :=
  (call.2.admittedAt, serve call state.2)

/-- The clock does not run backwards, and nobody edits stock. -/
structure Onward (state : Instant × Database) (call : Operation × Readings) : Prop where
  onward : state.1 ≤ call.2.admittedAt
  inTime : call.2.evaluatedAt ≤ call.2.admittedAt
  leaves : call.1.Within leavesStock state.2

/-- Nothing was ever held.  A check constraint refuses lines without units. -/
structure NothingHeld (database : Database) : Prop where
  noReservation : ∀ reservation, reservation ∉ database.reservations
  positive : ∀ checkout ∈ database.checkouts, ∀ line ∈ checkout.lines, 0 < line.quantity

omit [CaseFolding] [OperationDigest] [PrintableText] in
theorem NothingHeld.stocked {database : Database} (fresh : NothingHeld database)
    (now : Instant) : Stocked database.variants now (ledgerOf database) where
  quotePositive := fresh.positive
  linePositive reservation held := absurd held (fresh.noReservation reservation)
  fits reservation held := absurd held (fresh.noReservation reservation)
  conserved := by
    have noRows : (ledgerOf database).reservations.rows = [] :=
      List.eq_nil_iff_forall_not_mem.mpr fresh.noReservation
    have unsold : soldUnits (ledgerOf database).reservations = fun _ => 0 := by
      funext variantId
      simp [soldUnits, Table.total, noRows]
    rw [unsold]
    exact TakesOff.refl database.variants

/-- Every run under one clock keeps the shelf covered. -/
theorem stocked_of_run {start : Database} (fresh : NothingHeld start) {opening : Instant}
    {calls : List (Operation × Readings)}
    (onward : Guarded tick Onward (opening, start) calls) :
    Stocked start.variants (run tick (opening, start) calls).1
      (ledgerOf (run tick (opening, start) calls).2) := by
  have step : ∀ state call, Stocked start.variants state.1 (ledgerOf state.2) →
      Onward state call →
        Stocked start.variants (tick call state).1 (ledgerOf (tick call state).2) := by
    intro state call stocked guard
    exact stocked.movement guard.onward guard.inTime (serve_movement guard.leaves)
  have begins : Stocked start.variants (opening, start).1 (ledgerOf (opening, start).2) :=
    fresh.stocked opening
  exact run_invariant step begins onward

/-- What is committed or effectively held of a variant never exceeds its stock, selling a
committed hold never comes up short, and what the stock was is what it is and what was
sold. -/
theorem stock_covers_holds {start : Database} (fresh : NothingHeld start)
    {opening : Instant} {calls : List (Operation × Readings)}
    (onward : Guarded tick Onward (opening, start) calls) :
    (∀ variant ∈ (run tick (opening, start) calls).2.variants,
      ∀ instant, (run tick (opening, start) calls).1 ≤ instant →
        heldUnits (run tick (opening, start) calls).2.reservations variant.id instant ≤
          variant.inventoryQuantity) ∧
    (∀ reservation ∈ (run tick (opening, start) calls).2.reservations,
      reservation.status = .committed →
        (consumeStock reservation.merchantId (run tick (opening, start) calls).2.variants
          reservation.lines).2 = []) ∧
    (∀ variant ∈ start.variants,
      ∃ current ∈ (run tick (opening, start) calls).2.variants,
        current.id = variant.id ∧ current.merchantId = variant.merchantId ∧
          variant.inventoryQuantity =
            current.inventoryQuantity +
              soldUnits (run tick (opening, start) calls).2.reservations variant.id) := by
  have stocked := stocked_of_run fresh onward
  refine ⟨?_, ?_, ?_⟩
  · intro variant member instant le
    exact (stocked.later le).heldUnits_le member
  · intro reservation held isCommitted
    exact stocked.no_shortfall held isCommitted
  · intro variant member
    have kept := stocked.conserved variant.id
    rw [shelf_of_mem member] at kept
    obtain ⟨⟨merchantId, quantity⟩, onShelf, entryEq⟩ := Option.map_eq_some_iff.mp kept.symm
    simp only [plus, Prod.mk.injEq] at entryEq
    obtain ⟨sameMerchant, total⟩ := entryEq
    obtain ⟨current, found, stock⟩ := shelf_eq_some_iff.mp onShelf
    obtain ⟨currentMem, sameId, currentMerchant⟩ := findVariant_eq_some_iff.mp found
    exact ⟨current, currentMem, sameId, currentMerchant.trans sameMerchant,
      by rw [stock, ← total]; rfl⟩

end Runs

section Sample

local instance saleFolding : CaseFolding := asciiFolding
local instance saleDigest : OperationDigest := ⟨fun _ _ => "sample"⟩
local instance salePrintable : PrintableText := ⟨fun _ => true⟩

/-- The sample world with its constraint set stored and nothing held. -/
def sampleStockedDatabase : Database :=
  { sampleHeldDatabase with reservations := .empty }

/-- The sample quote is held, admitted, dispatched and paid. -/
def sampleSale : List (Operation × Readings) :=
  [(.prepareExecution 2 0 none 10, { transactionTime := 10, evaluatedAt := 10, admittedAt := 12 }),
    (.admitPayment 2 0 "order-0001" none none 11,
      { transactionTime := 15, evaluatedAt := 15, admittedAt := 16 }),
    (.beginDispatch 11 none, { transactionTime := 17, evaluatedAt := 17, admittedAt := 17 }),
    (.recordExecution 11 { outcome := .succeeded },
      { transactionTime := 19, evaluatedAt := 19, admittedAt := 19 })]

/-- The sample sale takes the one unit it held off the shelf. -/
theorem stock_covers_holds_sample :
    soldUnits (run tick (0, sampleStockedDatabase) sampleSale).2.reservations 3 = 1 ∧
      ∃ current ∈ (run tick (0, sampleStockedDatabase) sampleSale).2.variants,
        current.id = 3 ∧ current.inventoryQuantity = 4 := by
  have fresh : NothingHeld sampleStockedDatabase := by
    refine ⟨Table.not_mem_empty, ?_⟩
    intro checkout quoted line lineMem
    obtain rfl : checkout = sampleCheckout := List.mem_singleton.mp quoted
    obtain rfl : line = sampleLine := List.mem_singleton.mp lineMem
    decide
  have onward : Guarded tick Onward (0, sampleStockedDatabase) sampleSale :=
    ⟨⟨by decide, by decide, trivial⟩, ⟨by decide, by decide, trivial⟩,
      ⟨by decide, by decide, trivial⟩, ⟨by decide, by decide, trivial⟩, trivial⟩
  have sold : soldUnits (run tick (0, sampleStockedDatabase) sampleSale).2.reservations 3 = 1 := by
    decide +kernel
  obtain ⟨current, currentMem, sameId, _, total⟩ :=
    (stock_covers_holds fresh onward).2.2 sampleVariant (List.mem_singleton_self _)
  refine ⟨sold, current, currentMem, sameId, ?_⟩
  have five : sampleVariant.inventoryQuantity = 5 := rfl
  have three : sampleVariant.id = 3 := rfl
  rw [three, sold, five] at total
  omega

end Sample

end AgentRank.Payments
