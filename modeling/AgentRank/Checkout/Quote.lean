import AgentRank.Store.Session

/-!
# Quote arithmetic and the shape of a checkout

This module models `checkout/quote.py` and `CheckoutRepository.create`.  Totals
are derived from the lines, so a checkout whose total disagrees with its lines is
never written, and an empty quote is refused.
-/

namespace AgentRank.Checkout

open Constraints Store

def maxCheckoutLines : Nat := 50

/-- One variant, a positive quantity, and what the catalog said about it. -/
structure QuotedLine where
  variantId : Uuid
  quantity : Nat
  unitPriceAmountMinor : Nat
  productCategory : Option String
  variantAttributes : Attributes
  quantityPos : 0 < quantity

def QuotedLine.lineAmountMinor (line : QuotedLine) : Nat :=
  line.quantity * line.unitPriceAmountMinor

/-- What a quote adds up to. -/
structure CheckoutTotals where
  subtotalAmountMinor : Nat
  shippingAmountMinor : Nat
  discountAmountMinor : Nat
  totalAmountMinor : Nat
deriving DecidableEq

/-- The sum of the line amounts. -/
def quotedSubtotal (lines : List QuotedLine) : Nat :=
  (lines.map QuotedLine.lineAmountMinor).sum

/-- Add a quote up, refusing anything that would not be a quote. -/
def checkoutTotals (lines : List QuotedLine)
    (shippingAmountMinor discountAmountMinor : Nat) :
    Except ValueError CheckoutTotals :=
  if lines.isEmpty then
    .error { message := "a checkout must contain at least one line" }
  else if maxCheckoutLines < lines.length then
    .error { message := s!"a checkout may contain at most {maxCheckoutLines} lines" }
  else if ¬(lines.map QuotedLine.variantId).Nodup then
    .error { message := "a checkout must not contain the same variant twice" }
  else if quotedSubtotal lines + shippingAmountMinor < discountAmountMinor then
    .error { message := "discount must not exceed the subtotal plus shipping" }
  else
    .ok
      { subtotalAmountMinor := quotedSubtotal lines
        shippingAmountMinor := shippingAmountMinor
        discountAmountMinor := discountAmountMinor
        totalAmountMinor :=
          quotedSubtotal lines + shippingAmountMinor - discountAmountMinor }

/-- The stored copy of one quoted line. -/
def storedLine (lineId : Uuid) (line : QuotedLine) : CheckoutLine where
  id := lineId
  variantId := line.variantId
  quantity := line.quantity
  unitPriceAmountMinor := line.unitPriceAmountMinor
  productCategory := line.productCategory
  variantAttributes := line.variantAttributes

/-- The stored copies of quoted lines, in the order they were quoted. -/
def storedLines (lineId : Nat → Uuid) (lines : List QuotedLine) : List CheckoutLine :=
  lines.mapIdx fun index line => storedLine (lineId index) line

/-- Reading back, from the copies of a list, what does not depend on their positions. -/
theorem map_mapIdx {α β γ : Type} (copy : Nat → α → β) (values : List α) (stored : β → γ)
    (read : α → γ) (agree : ∀ index value, stored (copy index value) = read value) :
    (values.mapIdx copy).map stored = values.map read := by
  induction values generalizing copy with
  | nil => rfl
  | cons first rest ih =>
      rw [List.mapIdx_cons, List.map_cons, List.map_cons, agree]
      exact congrArg _ (ih (fun index => copy (index + 1)) fun index => agree (index + 1))

theorem storedLines_map {α : Type} (lineId : Nat → Uuid) (lines : List QuotedLine)
    (stored : CheckoutLine → α) (quoted : QuotedLine → α)
    (agree : ∀ id line, stored (storedLine id line) = quoted line) :
    (storedLines lineId lines).map stored = lines.map quoted :=
  map_mapIdx _ lines stored quoted fun index => agree (lineId index)

/-- What identifies a new quote, apart from its lines. -/
structure QuoteHeader where
  id : Uuid
  merchantId : Uuid
  mandateId : Uuid
  currency : String
  expiresAt : Instant
  shippingAmountMinor : Nat := 0
  discountAmountMinor : Nat := 0

/-- The row `CheckoutRepository.create` writes: always open, with the totals of
its lines. -/
def newCheckout (header : QuoteHeader) (lines : List QuotedLine) (lineId : Nat → Uuid) :
    Except ValueError CheckoutSession := do
  let totals ←
    checkoutTotals lines header.shippingAmountMinor header.discountAmountMinor
  if variantsNodup : (lines.map QuotedLine.variantId).Nodup then
    .ok
      { id := header.id
        merchantId := header.merchantId
        mandateId := header.mandateId
        currency := header.currency
        subtotalAmountMinor := totals.subtotalAmountMinor
        shippingAmountMinor := totals.shippingAmountMinor
        discountAmountMinor := totals.discountAmountMinor
        totalAmountMinor := totals.totalAmountMinor
        status := .isOpen
        expiresAt := header.expiresAt
        cancelledAt := none
        paidAt := none
        lines := storedLines lineId lines
        variantsNodup := by
          rw [storedLines_map lineId lines _ QuotedLine.variantId fun _ _ => rfl]
          exact variantsNodup }
  else
    .error { message := "a checkout must not contain the same variant twice" }

/-- A checkout as the repository writes it: it has lines, and its totals are
those of its lines.  All of these columns are immutable. -/
structure IsQuote (checkout : CheckoutSession) : Prop where
  hasLines : checkout.lines ≠ []
  lineCount : checkout.lines.length ≤ maxCheckoutLines
  subtotal : checkout.subtotalAmountMinor =
    (checkout.lines.map CheckoutLine.lineAmountMinor).sum
  total : checkout.totalAmountMinor + checkout.discountAmountMinor =
    checkout.subtotalAmountMinor + checkout.shippingAmountMinor

variable {lines : List QuotedLine}

/-- Accepted totals are the totals of a non-empty, bounded list of lines. -/
theorem checkoutTotals_eq_ok {shipping discount : Nat} {totals : CheckoutTotals}
    (accepted : checkoutTotals lines shipping discount = .ok totals) :
    lines ≠ [] ∧ lines.length ≤ maxCheckoutLines ∧
      totals.subtotalAmountMinor = quotedSubtotal lines ∧
      totals.shippingAmountMinor = shipping ∧ totals.discountAmountMinor = discount ∧
      totals.totalAmountMinor + discount = totals.subtotalAmountMinor + shipping := by
  unfold checkoutTotals at accepted
  split at accepted
  · cases accepted
  · next notEmpty =>
      split at accepted
      · cases accepted
      · next bounded =>
          split at accepted
          · cases accepted
          · split at accepted
            · cases accepted
            · next affordable =>
                cases accepted
                refine ⟨by simpa using notEmpty, not_lt.mp bounded, rfl, rfl, rfl, ?_⟩
                exact Nat.sub_add_cancel (not_lt.mp affordable)

variable {checkout : CheckoutSession} {header : QuoteHeader} {lineId : Nat → Uuid}

/-- An accepted quote stores its lines as they were quoted, and is open. -/
theorem newCheckout_eq_ok (written : newCheckout header lines lineId = .ok checkout) :
    checkout.status = .isOpen ∧ checkout.lines = storedLines lineId lines ∧
      ∃ totals,
        checkoutTotals lines header.shippingAmountMinor header.discountAmountMinor =
            .ok totals ∧
          checkout.subtotalAmountMinor = totals.subtotalAmountMinor ∧
          checkout.shippingAmountMinor = totals.shippingAmountMinor ∧
          checkout.discountAmountMinor = totals.discountAmountMinor ∧
          checkout.totalAmountMinor = totals.totalAmountMinor := by
  unfold newCheckout at written
  cases totalsEq :
      checkoutTotals lines header.shippingAmountMinor header.discountAmountMinor with
  | error refusal =>
      rw [totalsEq] at written
      cases written
  | ok totals =>
      rw [totalsEq] at written
      simp only [bind, Except.bind] at written
      split at written
      · cases written
        exact ⟨rfl, rfl, totals, rfl, rfl, rfl, rfl, rfl⟩
      · cases written

/-- Every stored line is for at least one unit. -/
theorem newCheckout_quantityPos (written : newCheckout header lines lineId = .ok checkout) :
    ∀ line ∈ checkout.lines, 0 < line.quantity := by
  obtain ⟨_, linesEq, _⟩ := newCheckout_eq_ok written
  intro line member
  rw [linesEq] at member
  have quantity := List.mem_map_of_mem (f := CheckoutLine.quantity) member
  rw [storedLines_map lineId lines _ QuotedLine.quantity fun _ _ => rfl] at quantity
  obtain ⟨quoted, _, sameQuantity⟩ := List.mem_map.mp quantity
  rw [← sameQuantity]
  exact quoted.quantityPos

/-- Everything the repository writes is a quote. -/
theorem newCheckout_isQuote (written : newCheckout header lines lineId = .ok checkout) :
    IsQuote checkout := by
  obtain ⟨_, linesEq, totals, totalsEq, subtotalEq, shippingEq, discountEq, totalEq⟩ :=
    newCheckout_eq_ok written
  obtain ⟨notEmpty, bounded, subtotal, shipping, discount, total⟩ :=
    checkoutTotals_eq_ok totalsEq
  refine ⟨?_, ?_, ?_, ?_⟩
  · intro empty
    apply notEmpty
    rw [linesEq] at empty
    simpa [storedLines] using empty
  · rw [linesEq]
    simpa [storedLines] using bounded
  · rw [subtotalEq, subtotal, linesEq]
    have sameAmounts :=
      storedLines_map lineId lines CheckoutLine.lineAmountMinor
        QuotedLine.lineAmountMinor fun _ _ => rfl
    rw [sameAmounts]
    rfl
  · rw [totalEq, discountEq, subtotalEq, shippingEq, shipping, discount]
    exact total

end AgentRank.Checkout
