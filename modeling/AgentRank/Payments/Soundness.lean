import AgentRank.Payments.Lifecycle
import AgentRank.Payments.Operations

/-!
# What the ledger keeps in step

Four kinds of rows must move together: an attempt that may still charge a buyer owns
a committed hold on an open quote, a successful one has its hold sold and its quote
paid, and a failed one has its hold given back.  `Sound` says so for a whole ledger.
Every movement keeps it, as long as no committed hold is given back on purpose.
-/

namespace AgentRank.Payments

open Checkout Inventory Relational Store

/-- What the hold of an attempt in this status must be. -/
def holdStatus : PaymentAttemptStatus → ReservationStatus
  | .admitted => .committed
  | .inFlight => .committed
  | .unknown => .committed
  | .succeeded => .consumed
  | .failed => .released

theorem holdStatus_of_isOpen {status : PaymentAttemptStatus} (isOpen : status.isOpen = true) :
    holdStatus status = .committed := by
  cases status with
  | admitted | inFlight | unknown => rfl
  | succeeded | failed => cases isOpen

theorem isOpen_of_holdStatus {status : PaymentAttemptStatus}
    (holding : (holdStatus status).isHolding = true) : status.isOpen = true := by
  cases status with
  | admitted | inFlight | unknown => rfl
  | succeeded | failed => cases holding

/-- An attempt, the hold it names and the quote it pays for stand together. -/
structure Stands (attempt : PaymentAttempt) (reservation : InventoryReservation)
    (checkout : CheckoutSession) : Prop where
  reservationId : reservation.id = attempt.reservationId
  checkoutId : checkout.id = attempt.checkoutId
  holdsFor : reservation.checkoutId = attempt.checkoutId
  sameMerchant : checkout.merchantId = attempt.merchantId
  sameMandate : checkout.mandateId = attempt.mandateId
  hasLines : checkout.lines ≠ []
  hold : reservation.status = holdStatus attempt.status
  whenOpen : attempt.status.isOpen = true → checkout.status = .isOpen
  whenSucceeded : attempt.status = .succeeded → checkout.status = .paid

/-- At most one hold of a checkout is standing. -/
def OneHold (reservations : Table InventoryReservation) : Prop :=
  ∀ first ∈ reservations, ∀ second ∈ reservations, first.checkoutId = second.checkoutId →
    first.status.isHolding = true → second.status.isHolding = true → first = second

/-- A hold that no payment is bound to. -/
def Unbound (reservation : InventoryReservation) : Prop :=
  reservation.status ≠ .committed

/-- Giving back only holds that no payment is bound to. -/
def sparesBound : Allowance where
  releases := Unbound
  restocks _ _ := True

/-- The ledger is in step. -/
structure Sound (ledger : Ledger) : Prop where
  named : ∀ attempt ∈ ledger.attempts, ∃ reservation ∈ ledger.reservations,
    ∃ checkout ∈ ledger.checkouts, Stands attempt reservation checkout
  oneSale : OneSale ledger.attempts
  committedNamed : ∀ reservation ∈ ledger.reservations, reservation.status = .committed →
    ∃ attempt ∈ ledger.attempts, attempt.reservationId = reservation.id ∧
      attempt.status.isOpen = true
  oneHold : OneHold ledger.reservations

/-! ## Rewriting one hold -/

namespace OneHold

variable {reservations : Table InventoryReservation}
  {row reservation : InventoryReservation}

/-- Rewriting a hold keeps the rule when it does not revive one. -/
theorem set (oneHold : OneHold reservations) (member : reservation ∈ reservations)
    (sameId : row.id = reservation.id) (sameCheckout : row.checkoutId = reservation.checkoutId)
    (revivesNothing : row.status.isHolding = true → reservation.status.isHolding = true) :
    OneHold (reservations.set row) := by
  have cases : ∀ {other}, other ∈ reservations.set row →
      other = row ∨ other ∈ reservations ∧ other ≠ reservation :=
    (Table.mem_set_iff_ne member sameId.symm).mp
  intro first firstMem second secondMem together firstHolding secondHolding
  rcases cases firstMem with rfl | ⟨firstOld, firstOther⟩ <;>
    rcases cases secondMem with rfl | ⟨secondOld, secondOther⟩
  · rfl
  · have other := oneHold _ member _ secondOld (sameCheckout.symm.trans together)
      (revivesNothing firstHolding) secondHolding
    exact absurd other.symm secondOther
  · have other := oneHold _ firstOld _ member (together.trans sameCheckout) firstHolding
      (revivesNothing secondHolding)
    exact absurd other firstOther
  · exact oneHold _ firstOld _ secondOld together firstHolding secondHolding

/-- A hold may join when its checkout holds nothing. -/
theorem insert (oneHold : OneHold reservations) {result : Table InventoryReservation}
    (none : HoldsNothing reservations row.checkoutId)
    (inserted : reservations.insert? row = some result) : OneHold result := by
  intro first firstMem second secondMem together firstHolding secondHolding
  rcases (Table.mem_insert?_iff inserted).mp firstMem with firstOld | rfl <;>
    rcases (Table.mem_insert?_iff inserted).mp secondMem with secondOld | rfl
  · exact oneHold _ firstOld _ secondOld together firstHolding secondHolding
  · rw [none first firstOld together] at firstHolding
    cases firstHolding
  · rw [none second secondOld together.symm] at secondHolding
    cases secondHolding
  · rfl

end OneHold

/-- A row that says something else about the same quote. -/
structure SameQuote (quote checkout : CheckoutSession) : Prop where
  id : quote.id = checkout.id
  merchantId : quote.merchantId = checkout.merchantId
  mandateId : quote.mandateId = checkout.mandateId
  lines : quote.lines = checkout.lines

namespace Stands

variable {attempt row : PaymentAttempt} {reservation : InventoryReservation}
  {checkout : CheckoutSession}

/-- An open attempt may be rewritten into another open status. -/
theorem reopened (stands : Stands attempt reservation checkout)
    (same : SamePayment row attempt) (wasOpen : attempt.status.isOpen = true)
    (isOpen : row.status.isOpen = true) : Stands row reservation checkout where
  reservationId := stands.reservationId.trans same.reservationId.symm
  checkoutId := stands.checkoutId.trans same.checkoutId.symm
  holdsFor := stands.holdsFor.trans same.checkoutId.symm
  sameMerchant := stands.sameMerchant.trans same.merchantId.symm
  sameMandate := stands.sameMandate.trans same.mandateId.symm
  hasLines := stands.hasLines
  hold := by rw [stands.hold, holdStatus_of_isOpen wasOpen, holdStatus_of_isOpen isOpen]
  whenOpen _ := stands.whenOpen wasOpen
  whenSucceeded succeeded := absurd succeeded (not_succeeded_of_isOpen isOpen)

/-- A quote may change its status where the attempt allows it. -/
theorem requoted (stands : Stands attempt reservation checkout) {quote : CheckoutSession}
    (same : SameQuote quote checkout)
    (whenOpen : attempt.status.isOpen = true → quote.status = .isOpen)
    (whenSucceeded : attempt.status = .succeeded → quote.status = .paid) :
    Stands attempt reservation quote where
  reservationId := stands.reservationId
  checkoutId := same.id.trans stands.checkoutId
  holdsFor := stands.holdsFor
  sameMerchant := same.merchantId.trans stands.sameMerchant
  sameMandate := same.mandateId.trans stands.sameMandate
  hasLines := by
    rw [same.lines]
    exact stands.hasLines
  hold := stands.hold
  whenOpen := whenOpen
  whenSucceeded := whenSucceeded

end Stands

namespace Sound

variable {ledger : Ledger}

variable {reservation : InventoryReservation} {checkout : CheckoutSession}
  {attempt : PaymentAttempt}

/-- The rows that an attempt names are the ones it stands with. -/
theorem stands (sound : Sound ledger) (member : attempt ∈ ledger.attempts)
    (held : reservation ∈ ledger.reservations) (heldId : reservation.id = attempt.reservationId)
    (quoted : checkout ∈ ledger.checkouts) (quotedId : checkout.id = attempt.checkoutId) :
    Stands attempt reservation checkout := by
  obtain ⟨namedHold, namedHoldMem, namedQuote, namedQuoteMem, stands⟩ :=
    sound.named attempt member
  obtain rfl : reservation = namedHold :=
    Table.eq_of_key_eq held namedHoldMem (heldId.trans stands.reservationId.symm)
  obtain rfl : checkout = namedQuote :=
    Table.eq_of_key_eq quoted namedQuoteMem (quotedId.trans stands.checkoutId.symm)
  exact stands

/-- The hold an attempt names has the status of the attempt. -/
theorem hold_of_names (sound : Sound ledger) (member : attempt ∈ ledger.attempts)
    (held : reservation ∈ ledger.reservations) (heldId : reservation.id = attempt.reservationId) :
    reservation.status = holdStatus attempt.status ∧
      reservation.checkoutId = attempt.checkoutId := by
  obtain ⟨namedHold, namedHoldMem, namedQuote, _, stands⟩ := sound.named attempt member
  obtain rfl : reservation = namedHold :=
    Table.eq_of_key_eq held namedHoldMem (heldId.trans stands.reservationId.symm)
  exact ⟨stands.hold, stands.holdsFor⟩

/-- Two attempts for one checkout are under one mandate. -/
theorem mandate_of_checkout (sound : Sound ledger) {first second : PaymentAttempt}
    (firstMem : first ∈ ledger.attempts) (secondMem : second ∈ ledger.attempts)
    (sameCheckout : first.checkoutId = second.checkoutId) :
    first.mandateId = second.mandateId := by
  obtain ⟨_, _, firstQuote, firstQuoteMem, firstStands⟩ := sound.named first firstMem
  obtain ⟨_, _, secondQuote, secondQuoteMem, secondStands⟩ := sound.named second secondMem
  have sameId : firstQuote.id = secondQuote.id := by
    rw [firstStands.checkoutId, sameCheckout, secondStands.checkoutId]
  obtain rfl : firstQuote = secondQuote :=
    Table.eq_of_key_eq firstQuoteMem secondQuoteMem sameId
  exact firstStands.sameMandate.symm.trans secondStands.sameMandate

/-- No two attempts name one hold while one of them is open. -/
theorem eq_of_hold (sound : Sound ledger) {first second : PaymentAttempt}
    (firstMem : first ∈ ledger.attempts) (secondMem : second ∈ ledger.attempts)
    (isOpen : first.status.isOpen = true)
    (sameHold : second.reservationId = first.reservationId) : second = first := by
  obtain ⟨reservation, held, _, _, stands⟩ := sound.named first firstMem
  obtain ⟨sameStatus, sameCheckout⟩ :=
    sound.hold_of_names secondMem held (stands.reservationId.trans sameHold.symm)
  have alsoOpen : second.status.isOpen = true := by
    apply isOpen_of_holdStatus
    rw [← sameStatus, stands.hold, holdStatus_of_isOpen isOpen]
    rfl
  exact sound.oneSale.openUnique second secondMem first firstMem
    (sound.mandate_of_checkout secondMem firstMem (sameCheckout.symm.trans stands.holdsFor))
    alsoOpen isOpen

/-- Every committed hold is named by exactly one attempt, and that one is open. -/
theorem committed_existsUnique (sound : Sound ledger) (held : reservation ∈ ledger.reservations)
    (committed : reservation.status = .committed) :
    ∃ attempt ∈ ledger.attempts, attempt.reservationId = reservation.id ∧
      attempt.status.isOpen = true ∧
      ∀ other ∈ ledger.attempts, other.reservationId = reservation.id → other = attempt := by
  obtain ⟨attempt, member, names, isOpen⟩ := sound.committedNamed reservation held committed
  refine ⟨attempt, member, names, isOpen, ?_⟩
  intro other otherMem otherNames
  exact sound.eq_of_hold member otherMem isOpen (otherNames.trans names.symm)

/-! ## Each movement keeps the ledger in step -/

/-- Replacing an open attempt by another open row of the same payment. -/
theorem reopen (sound : Sound ledger) {row : PaymentAttempt} (member : attempt ∈ ledger.attempts)
    (same : SamePayment row attempt) (wasOpen : attempt.status.isOpen = true)
    (isOpen : row.status.isOpen = true) :
    Sound { ledger with attempts := ledger.attempts.set row } where
  named other otherMem := by
    rcases (Table.mem_set_iff_ne member same.id.symm).mp otherMem with rfl | ⟨old, _⟩
    · obtain ⟨reservation, held, checkout, quoted, stands⟩ := sound.named attempt member
      exact ⟨reservation, held, checkout, quoted, stands.reopened same wasOpen isOpen⟩
    · exact sound.named other old
  oneSale := sound.oneSale.set member same (fun _ => wasOpen) (fun _ => Or.inl wasOpen)
  committedNamed reservation held committed := by
    obtain ⟨named, namedMem, names, namedOpen⟩ :=
      sound.committedNamed reservation held committed
    by_cases sameRow : named = attempt
    · refine ⟨row, (Table.mem_set_iff_ne member same.id.symm).mpr (Or.inl rfl), ?_, isOpen⟩
      rw [same.reservationId, ← sameRow]
      exact names
    · exact ⟨named, (Table.mem_set_iff_ne member same.id.symm).mpr
        (Or.inr ⟨namedMem, sameRow⟩), names, namedOpen⟩
  oneHold := sound.oneHold

/-- A quote may be added. -/
theorem quote (sound : Sound ledger) {checkouts : Table CheckoutSession}
    (inserted : ledger.checkouts.insert? checkout = some checkouts) :
    Sound { ledger with checkouts := checkouts } where
  named attempt member := by
    obtain ⟨reservation, held, quoted, quotedMem, stands⟩ := sound.named attempt member
    exact ⟨reservation, held, quoted,
      (Table.mem_insert?_iff inserted).mpr (Or.inl quotedMem), stands⟩
  oneSale := sound.oneSale
  committedNamed := sound.committedNamed
  oneHold := sound.oneHold

/-- Stock may be held for a quote that holds nothing. -/
theorem reserve (sound : Sound ledger) {reservations : Table InventoryReservation}
    (active : reservation.status = .active)
    (none : HoldsNothing ledger.reservations reservation.checkoutId)
    (inserted : ledger.reservations.insert? reservation = some reservations) :
    Sound { ledger with reservations := reservations } where
  named attempt member := by
    obtain ⟨held, heldMem, checkout, quoted, stands⟩ := sound.named attempt member
    exact ⟨held, (Table.mem_insert?_iff inserted).mpr (Or.inl heldMem), checkout, quoted,
      stands⟩
  oneSale := sound.oneSale
  committedNamed other otherMem committed := by
    rcases (Table.mem_insert?_iff inserted).mp otherMem with old | rfl
    · exact sound.committedNamed other old committed
    · rw [active] at committed
      cases committed
  oneHold := sound.oneHold.insert none inserted

/-- Replacing a hold that no attempt names, by one that is not committed. -/
theorem rehold (sound : Sound ledger) {row : InventoryReservation}
    (held : reservation ∈ ledger.reservations) (sameId : row.id = reservation.id)
    (sameCheckout : row.checkoutId = reservation.checkoutId) (gone : row.status.isHolding = false)
    (unnamed : ∀ attempt ∈ ledger.attempts, attempt.reservationId ≠ reservation.id) :
    Sound { ledger with reservations := ledger.reservations.set row } where
  named attempt member := by
    obtain ⟨other, otherMem, checkout, quoted, stands⟩ := sound.named attempt member
    refine ⟨other, (Table.mem_set_iff_ne held sameId.symm).mpr (Or.inr ⟨otherMem, ?_⟩),
      checkout, quoted, stands⟩
    rintro rfl
    exact unnamed attempt member stands.reservationId.symm
  oneSale := sound.oneSale
  committedNamed other otherMem committed := by
    rcases (Table.mem_set_iff_ne held sameId.symm).mp otherMem with rfl | ⟨old, _⟩
    · rw [committed] at gone
      cases gone
    · exact sound.committedNamed other old committed
  oneHold := by
    apply sound.oneHold.set held sameId sameCheckout
    intro revived
    rw [gone] at revived
    cases revived

/-- A quote decides the mandate of its attempts. -/
theorem mandate_of_quote (sound : Sound ledger) (member : attempt ∈ ledger.attempts)
    (quoted : checkout ∈ ledger.checkouts) (quotedId : checkout.id = attempt.checkoutId) :
    checkout.mandateId = attempt.mandateId := by
  obtain ⟨reservation, held, _, _, stands⟩ := sound.named attempt member
  exact (sound.stands member held stands.reservationId quoted quotedId).sameMandate

/-- A standing hold of a quote without an open attempt is named by no attempt. -/
theorem unnamed (sound : Sound ledger) (held : reservation ∈ ledger.reservations)
    (holding : reservation.status.isHolding = true)
    (noneOpen : ∀ attempt ∈ ledger.attempts, attempt.checkoutId = reservation.checkoutId →
      attempt.status.isOpen = false) :
    ∀ attempt ∈ ledger.attempts, attempt.reservationId ≠ reservation.id := by
  intro attempt member names
  obtain ⟨sameStatus, sameCheckout⟩ := sound.hold_of_names member held names.symm
  have isOpen : attempt.status.isOpen = true := by
    apply isOpen_of_holdStatus
    rw [← sameStatus]
    exact holding
  rw [noneOpen attempt member sameCheckout.symm] at isOpen
  cases isOpen

/-- A payment may be admitted for an open quote with a standing hold, under a mandate
that neither has an open attempt nor was spent. -/
theorem payFor (sound : Sound ledger) {idempotencyKey : String} {attemptId : Uuid}
    {attempts : Table PaymentAttempt} (quoted : checkout ∈ ledger.checkouts)
    (isOpen : checkout.status = .isOpen) (hasLines : checkout.lines ≠ [])
    (held : reservation ∈ ledger.reservations) (names : reservation.checkoutId = checkout.id)
    (holding : reservation.status.isHolding = true)
    (noneOpen : ∀ attempt ∈ ledger.attempts, attempt.mandateId = checkout.mandateId →
      attempt.status.isOpen = false)
    (unspent : ∀ attempt ∈ ledger.attempts, attempt.mandateId = checkout.mandateId →
      attempt.status ≠ .succeeded)
    (inserted :
      ledger.attempts.insert? (newAttempt checkout reservation idempotencyKey attemptId) =
        some attempts) :
    Sound
      { ledger with
        attempts := attempts
        reservations := ledger.reservations.set { reservation with status := .committed } } := by
  have free : ∀ attempt ∈ ledger.attempts, attempt.reservationId ≠ reservation.id := by
    apply sound.unnamed held holding
    intro attempt member sameCheckout
    exact noneOpen attempt member
      (sound.mandate_of_quote member quoted (names.symm.trans sameCheckout.symm)).symm
  have holds : ∀ other,
      other ∈ ledger.reservations.set { reservation with status := .committed } ↔
        other = { reservation with status := .committed } ∨
          other ∈ ledger.reservations ∧ other ≠ reservation :=
    fun _ => Table.mem_set_iff_ne held rfl
  constructor
  · intro attempt member
    rcases (Table.mem_insert?_iff inserted).mp member with old | rfl
    · obtain ⟨other, otherMem, quote, quoteMem, stands⟩ := sound.named attempt old
      refine ⟨other, (holds other).mpr (Or.inr ⟨otherMem, ?_⟩), quote, quoteMem, stands⟩
      rintro rfl
      exact free attempt old stands.reservationId.symm
    · exact ⟨_, (holds _).mpr (Or.inl rfl), checkout, quoted,
        { reservationId := rfl
          checkoutId := rfl
          holdsFor := names
          sameMerchant := rfl
          sameMandate := rfl
          hasLines := hasLines
          hold := rfl
          whenOpen := fun _ => isOpen
          whenSucceeded := nofun }⟩
  · exact sound.oneSale.insert rfl noneOpen unspent inserted
  · intro other otherMem committed
    rcases (holds other).mp otherMem with rfl | ⟨old, _⟩
    · exact ⟨_, (Table.mem_insert?_iff inserted).mpr (Or.inr rfl), rfl, rfl⟩
    · obtain ⟨attempt, member, namesOther, attemptOpen⟩ :=
        sound.committedNamed other old committed
      exact ⟨attempt, (Table.mem_insert?_iff inserted).mpr (Or.inl member), namesOther,
        attemptOpen⟩
  · exact sound.oneHold.set held rfl rfl fun _ => holding

/-- An open attempt may be settled when its hold and its quote move with it. -/
theorem settle (sound : Sound ledger) {row : PaymentAttempt} {hold : InventoryReservation}
    {quote : CheckoutSession} {variants : Table Variant} {trail : List AuditEvent}
    (member : attempt ∈ ledger.attempts) (same : SamePayment row attempt)
    (wasOpen : attempt.status.isOpen = true) (terminal : row.status.isOpen = false)
    (held : reservation ∈ ledger.reservations) (heldId : reservation.id = attempt.reservationId)
    (holdId : hold.id = reservation.id) (holdCheckout : hold.checkoutId = reservation.checkoutId)
    (holdEq : hold.status = holdStatus row.status) (quoted : checkout ∈ ledger.checkouts)
    (quotedId : checkout.id = attempt.checkoutId) (sameQuote : SameQuote quote checkout)
    (paid : row.status = .succeeded → quote.status = .paid) :
    Sound
      { checkouts := ledger.checkouts.set quote
        variants := variants
        reservations := ledger.reservations.set hold
        attempts := ledger.attempts.set row
        trail := trail } := by
  have stands := sound.stands member held heldId quoted quotedId
  have attemptRows : ∀ other, other ∈ ledger.attempts.set row ↔
      other = row ∨ other ∈ ledger.attempts ∧ other ≠ attempt :=
    fun _ => Table.mem_set_iff_ne member same.id.symm
  have holds : ∀ other, other ∈ ledger.reservations.set hold ↔
      other = hold ∨ other ∈ ledger.reservations ∧ other ≠ reservation :=
    fun _ => Table.mem_set_iff_ne held holdId.symm
  have quotes : ∀ other, other ∈ ledger.checkouts.set quote ↔
      other = quote ∨ other ∈ ledger.checkouts ∧ other ≠ checkout :=
    fun _ => Table.mem_set_iff_ne quoted sameQuote.id.symm
  have notHolding : hold.status.isHolding = false := by
    rw [holdEq, Bool.eq_false_iff]
    intro holding
    rw [isOpen_of_holdStatus holding] at terminal
    cases terminal
  constructor
  · intro other otherMem
    rcases (attemptRows other).mp otherMem with rfl | ⟨old, otherAttempt⟩
    · exact ⟨hold, (holds hold).mpr (Or.inl rfl), quote, (quotes quote).mpr (Or.inl rfl),
        { reservationId := holdId.trans (heldId.trans same.reservationId.symm)
          checkoutId := sameQuote.id.trans (quotedId.trans same.checkoutId.symm)
          holdsFor := holdCheckout.trans (stands.holdsFor.trans same.checkoutId.symm)
          sameMerchant := sameQuote.merchantId.trans
            (stands.sameMerchant.trans same.merchantId.symm)
          sameMandate := sameQuote.mandateId.trans
            (stands.sameMandate.trans same.mandateId.symm)
          hasLines := by
            rw [sameQuote.lines]
            exact stands.hasLines
          hold := holdEq
          whenOpen := fun isOpen => by
            rw [terminal] at isOpen
            cases isOpen
          whenSucceeded := paid }⟩
    · obtain ⟨otherHold, otherHeld, otherQuote, otherQuoted, otherStands⟩ :=
        sound.named other old
      have stillHeld : otherHold ∈ ledger.reservations.set hold := by
        refine (holds otherHold).mpr (Or.inr ⟨otherHeld, ?_⟩)
        rintro rfl
        exact otherAttempt (sound.eq_of_hold member old wasOpen
          (otherStands.reservationId.symm.trans heldId))
      by_cases sameRow : otherQuote = checkout
      · -- The other attempts for this quote are under its mandate, so they failed.
        subst sameRow
        have sameMandate : attempt.mandateId = other.mandateId :=
          stands.sameMandate.symm.trans otherStands.sameMandate
        refine ⟨otherHold, stillHeld, quote, (quotes quote).mpr (Or.inl rfl),
          otherStands.requoted sameQuote ?_ ?_⟩
        · intro otherOpen
          exact absurd (sound.oneSale.openUnique attempt member other old sameMandate wasOpen
            otherOpen).symm otherAttempt
        · intro otherSucceeded
          exact absurd otherSucceeded
            (sound.oneSale.openUnspent attempt member other old sameMandate wasOpen)
      · exact ⟨otherHold, stillHeld, otherQuote,
          (quotes otherQuote).mpr (Or.inr ⟨otherQuoted, sameRow⟩), otherStands⟩
  · apply sound.oneSale.set member same
    · intro isOpen
      rw [terminal] at isOpen
      cases isOpen
    · intro _
      exact Or.inl wasOpen
  · intro other otherMem committed
    rcases (holds other).mp otherMem with rfl | ⟨old, otherHold⟩
    · rw [committed] at notHolding
      cases notHolding
    · obtain ⟨named, namedMem, names, namedOpen⟩ := sound.committedNamed other old committed
      refine ⟨named, (attemptRows named).mpr (Or.inr ⟨namedMem, ?_⟩), names, namedOpen⟩
      rintro rfl
      exact otherHold (Table.eq_of_key_eq old held (names.symm.trans heldId.symm))
  · apply sound.oneHold.set held holdId holdCheckout
    intro revived
    rw [notHolding] at revived
    cases revived

/-- A quote may change its status when every attempt for it failed. -/
theorem requote (sound : Sound ledger) {quote : CheckoutSession}
    (quoted : checkout ∈ ledger.checkouts) (same : SameQuote quote checkout)
    (allFailed : ∀ attempt ∈ ledger.attempts, attempt.checkoutId = checkout.id →
      attempt.status = .failed) :
    Sound { ledger with checkouts := ledger.checkouts.set quote } where
  named attempt member := by
    obtain ⟨reservation, held, other, otherMem, stands⟩ := sound.named attempt member
    by_cases sameRow : other = checkout
    · subst sameRow
      have failed := allFailed attempt member stands.checkoutId.symm
      refine ⟨reservation, held, quote,
        (Table.mem_set_iff_ne quoted same.id.symm).mpr (Or.inl rfl),
        stands.requoted same ?_ ?_⟩
      · intro isOpen
        rw [failed] at isOpen
        cases isOpen
      · intro succeeded
        rw [failed] at succeeded
        cases succeeded
    · exact ⟨reservation, held, other,
        (Table.mem_set_iff_ne quoted same.id.symm).mpr (Or.inr ⟨otherMem, sameRow⟩), stands⟩
  oneSale := sound.oneSale
  committedNamed := sound.committedNamed
  oneHold := sound.oneHold

/-- A withdrawn quote gives back its own hold only. -/
theorem giveBack (sound : Sound ledger) {checkoutId : Uuid}
    {reservations : Table InventoryReservation}
    (noneOpen : ∀ attempt ∈ ledger.attempts, attempt.checkoutId = checkoutId →
      attempt.status.isOpen = false)
    (givesBack : GivesBack checkoutId ledger.reservations reservations) :
    Sound { ledger with reservations := reservations } := by
  cases givesBack with
  | nothing none => exact sound
  | hold reservation releasedAt member names holding =>
      refine sound.rehold member rfl rfl rfl ?_
      apply sound.unnamed member holding
      rw [names]
      exact noneOpen

/-- An unpaid quote without an open attempt has only failed ones. -/
theorem allFailed (sound : Sound ledger) (quoted : checkout ∈ ledger.checkouts)
    (unpaid : checkout.status ≠ .paid)
    (noneOpen : ∀ attempt ∈ ledger.attempts, attempt.checkoutId = checkout.id →
      attempt.status.isOpen = false) :
    ∀ attempt ∈ ledger.attempts, attempt.checkoutId = checkout.id →
      attempt.status = .failed := by
  intro attempt member sameCheckout
  obtain ⟨reservation, held, _, _, stands⟩ := sound.named attempt member
  have standsHere :=
    sound.stands member held stands.reservationId quoted sameCheckout.symm
  have notOpen := noneOpen attempt member sameCheckout
  cases status : attempt.status with
  | admitted | inFlight | unknown =>
      rw [status] at notOpen
      cases notOpen
  | succeeded => exact absurd (standsHere.whenSucceeded status) unpaid
  | failed => rfl

/-- Every movement keeps the ledger in step, as long as no committed hold is given back
on purpose. -/
theorem movement (sound : Sound ledger) {clock : Readings} {next : Ledger}
    (movement : Movement sparesBound clock ledger next) : Sound next := by
  cases movement with
  | untouched => exact sound
  | restocked variants allowed => exact ⟨sound.named, sound.oneSale, sound.committedNamed, sound.oneHold⟩
  | quoted checkout checkouts isOpen isQuote positive inserted => exact sound.quote inserted
  | reserved checkout reservationId expiresAt reservations member isOpen none fits inserted =>
      exact sound.reserve rfl none inserted
  | admitted checkout reservation key attemptId attempts member isOpen hasLines held names
      holding effective identityFree noneOpen unspent inserted =>
      exact sound.payFor member isOpen hasLines held names holding noneOpen unspent inserted
  | dispatched attempt member isAdmitted =>
      refine sound.reopen member ⟨rfl, rfl, rfl, rfl, rfl, rfl⟩ ?_ ?_
      · rw [isAdmitted]
        rfl
      · rfl
  | clouded attempt source member inFlight =>
      refine sound.reopen member ⟨rfl, rfl, rfl, rfl, rfl, rfl⟩ ?_ ?_
      · rw [inFlight]
        rfl
      · rfl
  | succeeded attempt checkout reservation reference source paidAt consumedAt variants event
      member isDispatched named namedId held heldId notCancelled stock =>
      exact sound.settle member ⟨rfl, rfl, rfl, rfl, rfl, rfl⟩ (isOpen_of_isDispatched isDispatched)
        rfl held heldId rfl rfl rfl named namedId ⟨rfl, rfl, rfl, rfl⟩ fun _ => rfl
  | failed attempt reservation failureCode reference source releasedAt event member
      isDispatched held heldId notConsumed =>
      obtain ⟨_, _, checkout, quoted, stands⟩ := sound.named attempt member
      have settled : Sound
          { checkouts := ledger.checkouts.set checkout
            variants := ledger.variants
            reservations := ledger.reservations.set (releasedRow reservation releasedAt)
            attempts :=
              ledger.attempts.set
                (failedRow attempt failureCode reference source clock.transactionTime)
            trail := ledger.trail ++ [event] } :=
        sound.settle member ⟨rfl, rfl, rfl, rfl, rfl, rfl⟩ (isOpen_of_isDispatched isDispatched)
          rfl held heldId rfl rfl rfl quoted stands.checkoutId ⟨rfl, rfl, rfl, rfl⟩ nofun
      rw [Table.set_of_mem quoted] at settled
      exact settled
  | disputed event => exact ⟨sound.named, sound.oneSale, sound.committedNamed, sound.oneHold⟩
  | withdrawn checkout cancelledAt reservations member unpaid noneOpen givesBack =>
      have returned := sound.giveBack noneOpen givesBack
      exact returned.requote member ⟨rfl, rfl, rfl, rfl⟩
        (sound.allFailed member unpaid noneOpen)
  | released reservation releasedAt held holding allowed =>
      refine sound.rehold held rfl rfl rfl ?_
      intro attempt member names
      obtain ⟨sameStatus, _⟩ := sound.hold_of_names member held names.symm
      apply allowed
      rw [sameStatus] at holding ⊢
      exact holdStatus_of_isOpen (isOpen_of_holdStatus holding)

/-- A committed hold goes back only with the failure of the one attempt bound to it. -/
theorem released_only_by_failure (sound : Sound ledger) {clock : Readings} {next : Ledger}
    (movement : Movement sparesBound clock ledger next) {released : InventoryReservation}
    (held : reservation ∈ ledger.reservations) (isCommitted : reservation.status = .committed)
    (after : released ∈ next.reservations) (sameId : released.id = reservation.id)
    (isReleased : released.status = .released) :
    ∃ attempt ∈ ledger.attempts, attempt.reservationId = reservation.id ∧
      (∀ other ∈ ledger.attempts, other.reservationId = reservation.id → other = attempt) ∧
      attempt.status.isOpen = true ∧
      ∃ row ∈ next.attempts, row.id = attempt.id ∧ row.status = .failed := by
  obtain ⟨attempt, member, names, isOpen, only⟩ := sound.committed_existsUnique held isCommitted
  -- A row that is still there is still committed.
  have standing : ∀ other ∈ ledger.reservations, other.id = reservation.id →
      other.status ≠ .released := by
    intro other otherMem otherId
    rw [Table.eq_of_key_eq otherMem held otherId, isCommitted]
    nofun
  -- After a rewriting, only the rewritten row can be the released one.
  have rewritten : ∀ old row, old ∈ ledger.reservations → row.id = old.id →
      released ∈ ledger.reservations.set row → released = row ∧ old = reservation := by
    intro old row oldMem rowId releasedMem
    rcases (Table.mem_set_iff_ne oldMem rowId.symm).mp releasedMem with rfl | ⟨stays, _⟩
    · exact ⟨rfl, Table.eq_of_key_eq oldMem held (rowId.symm.trans sameId)⟩
    · exact absurd isReleased (standing released stays sameId)
  cases movement with
  | untouched | restocked | quoted | dispatched | clouded | disputed =>
      exact absurd isReleased (standing released after sameId)
  | reserved checkout reservationId expiresAt reservations quoted quoteOpen none fits inserted =>
      rcases (Table.mem_insert?_iff inserted).mp after with stays | rfl
      · exact absurd isReleased (standing released stays sameId)
      · cases isReleased
  | admitted checkout other key attemptId attempts quoted quoteOpen hasLines otherHeld =>
      obtain ⟨rfl, _⟩ := rewritten other { other with status := .committed } otherHeld rfl after
      cases isReleased
  | succeeded settled checkout other reference source paidAt consumedAt variants event
      settledMem isDispatched quoted quotedId otherHeld =>
      obtain ⟨rfl, _⟩ := rewritten other (consumedRow other consumedAt) otherHeld rfl after
      cases isReleased
  | failed settled other failureCode reference source releasedAt event settledMem isDispatched
      otherHeld otherId =>
      obtain ⟨_, rfl⟩ := rewritten other (releasedRow other releasedAt) otherHeld rfl after
      obtain rfl : settled = attempt := only settled settledMem otherId.symm
      have written :
          failedRow settled failureCode reference source clock.transactionTime ∈
            ledger.attempts.set
              (failedRow settled failureCode reference source clock.transactionTime) := by
        refine (Table.mem_set_iff_ne settledMem ?_).mpr (Or.inl rfl)
        rfl
      exact ⟨settled, member, names, only, isOpen, _, written, rfl, rfl⟩
  | withdrawn checkout cancelledAt reservations quoted unpaid noneOpen givesBack =>
      cases givesBack with
      | nothing none => exact absurd isReleased (standing released after sameId)
      | hold other releasedAt otherHeld otherNames holding =>
          obtain ⟨_, rfl⟩ := rewritten other (releasedRow other releasedAt) otherHeld rfl after
          rw [← otherNames] at noneOpen
          exact absurd names (sound.unnamed held holding noneOpen attempt member)
  | released other releasedAt otherHeld holding allowed =>
      obtain ⟨_, rfl⟩ := rewritten other (releasedRow other releasedAt) otherHeld rfl after
      exact absurd isCommitted allowed

end Sound

end AgentRank.Payments
