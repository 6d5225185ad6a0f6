import AgentRank.Benchmark.Catalog
import AgentRank.Benchmark.Verdicts
import AgentRank.Checkout.Quote
import Mathlib.Data.List.Sort

/-!
# Turning a report into an observation

This module models `benchmark/substantiation.py`.  A report names rows, and the rows of the
merchant say what happened.

A sweep over the window of a mission holds every payment that a report could name, so what
is credited does not depend on the report.  A quote with several lines is described by one
of them, which the report may name.
-/

namespace AgentRank.Benchmark

open Checkout Constraints Relational Store Text

/-- What the trusted tool boundary saw the merchant answer. -/
structure CommerceEvidence where
  authorization : Option ObservedAuthorization := none
  stockUnavailable : Bool := false
  checkoutId : Option Uuid := none
deriving DecidableEq

/-- What the columns of a stored quote are checked for. -/
structure IsStoredQuote (checkout : CheckoutSession) : Prop where
  isQuote : IsQuote checkout
  quantitiesPositive : ∀ line ∈ checkout.lines, 0 < line.quantity
  isCurrency : isCurrencyCode checkout.currency = true

abbrev StoredQuote :=
  { checkout : CheckoutSession // IsStoredQuote checkout }

/-- The rows that a mission is substantiated from.  An attempt names a quote of its own
merchant, which is a composite foreign key. -/
structure CommerceRows where
  database : Database
  createdAt : Uuid → Instant
  stored : ∀ checkout ∈ database.checkouts, IsStoredQuote checkout
  attemptQuoted : ∀ attempt ∈ database.attempts, ∃ checkout,
    database.checkouts.get? attempt.checkoutId = some checkout ∧
      checkout.merchantId = attempt.merchantId

/-- One line of a quote, as the quote records it. -/
structure ReadLine where
  variantId : Uuid
  quantity : Nat
  unitPriceAmountMinor : Nat
  currency : String
  quantityPositive : 0 < quantity

section Payments

variable (rows : CommerceRows) (merchantId : Uuid)

/-- An attempt of the merchant that was created in the window. -/
def InWindow (since : Option Instant) (attempt : PaymentAttempt) : Prop :=
  attempt.merchantId = merchantId ∧ ∀ start, since = some start →
    start ≤ rows.createdAt attempt.id

instance (since : Option Instant) : DecidablePred (InWindow rows merchantId since) :=
  fun attempt =>
    match since with
    | none => decidable_of_iff (attempt.merchantId = merchantId) (by simp [InWindow])
    | some start =>
        decidable_of_iff
          (attempt.merchantId = merchantId ∧ start ≤ rows.createdAt attempt.id)
          (by simp [InWindow])

/-- Every attempt of the merchant in the window of a mission, in the order of identifiers.
Without a window nothing is swept. -/
def sweep : Option Instant → List PaymentAttempt
  | none => []
  | some start =>
      (rows.database.attempts.rows.filter fun attempt =>
        InWindow rows merchantId (some start) attempt).insertionSort fun first second =>
          first.id ≤ second.id

/-- The attempts of a mission: those of the sweep, and the one that the report names. -/
def candidates (report : ExecutorReport) (since : Option Instant) : List PaymentAttempt :=
  let swept := sweep rows merchantId since
  match report.payment with
  | none => swept
  | some payment =>
      if swept.any fun attempt => decide (attempt.id = payment.attemptId) then swept
      else
        match rows.database.attempts.get? payment.attemptId with
        | none => swept
        | some named =>
            if InWindow rows merchantId since named then swept ++ [named] else swept

/-- The attempt with the greatest identifier. -/
def latest : List PaymentAttempt → Option PaymentAttempt
  | [] => none
  | first :: rest =>
      some (rest.foldl (fun best attempt => if attempt.id ≤ best.id then best else attempt) first)

/-- A success is credited before everything else, and then the latest attempt. -/
def credited (attempts : List PaymentAttempt) : Option PaymentAttempt :=
  match attempts.find? fun attempt => decide (attempt.status = .succeeded) with
  | some attempt => some attempt
  | none => latest attempts

/-- `_payment`. -/
def paymentOf (report : ExecutorReport) (since : Option Instant) : Option PaymentAttempt :=
  credited (candidates rows merchantId report since)

end Payments

/-- `_owned`: a quote of the merchant. -/
def owned (rows : CommerceRows) (checkoutId merchantId : Uuid) : Option StoredQuote :=
  match found : rows.database.checkouts.get? checkoutId with
  | none => none
  | some checkout =>
      if checkout.merchantId = merchantId then
        some ⟨checkout, rows.stored checkout (Table.get?_eq_some_iff.mp found).1⟩
      else none

/-- `_checkout`: the quote that was paid, or else the one that the report names, or else the
one that the merchant answered with. -/
def checkoutOf (rows : CommerceRows) (report : ExecutorReport)
    (payment : Option PaymentAttempt) (evidence : CommerceEvidence) (merchantId : Uuid) :
    Option StoredQuote :=
  match payment with
  | some payment => owned rows payment.checkoutId merchantId
  | none =>
      match report.checkout.bind ReportedCheckout.checkoutId with
      | some checkoutId => owned rows checkoutId merchantId
      | none => evidence.checkoutId.bind fun checkoutId => owned rows checkoutId merchantId

/-- The lines of a quote in the order of identifiers. -/
def sortedLines (checkout : CheckoutSession) : List CheckoutLine :=
  checkout.lines.insertionSort fun first second => first.id ≤ second.id

@[simp]
theorem mem_sortedLines {checkout : CheckoutSession} {line : CheckoutLine} :
    line ∈ sortedLines checkout ↔ line ∈ checkout.lines :=
  List.mem_insertionSort _

/-- One row of `_lines`.  A line has the currency of its quote, which is a foreign key. -/
def readLine (checkout : CheckoutSession) (line : CheckoutLine) (positive : 0 < line.quantity) :
    ReadLine where
  variantId := line.variantId
  quantity := line.quantity
  unitPriceAmountMinor := line.unitPriceAmountMinor
  currency := checkout.currency
  quantityPositive := positive

/-- `_lines`. -/
def linesOf (quote : StoredQuote) : List ReadLine :=
  (sortedLines quote.val).pmap (readLine quote.val) fun line member =>
    quote.property.quantitiesPositive line (mem_sortedLines.mp member)

/-- `_chosen_line`: the line that the report names, or else the first. -/
def chosenLine (report : ExecutorReport) (lines : List ReadLine) : Option ReadLine :=
  match report.selection with
  | none => lines.head?
  | some selection =>
      match lines.find? fun line => decide (line.variantId = selection.variantId) with
      | some named => some named
      | none => lines.head?

/-! ## Selections -/

/-- What a number of units of a variant is, as the catalog before the mission describes it.
A variant that is not in the catalog has no price and no attributes. -/
def describe (catalog : List CatalogEntry) (brief : AgentMissionBrief) (variantId : Uuid)
    (quantity : Nat) (positive : 0 < quantity) : ObservedSelection :=
  match catalog.find? fun entry => entry.variantId == variantId with
  | none =>
      { variantId := variantId
        quantity := quantity
        unitPriceAmountMinor := 0
        currency := brief.currency
        substantiated := false
        quantityPositive := positive
        isCurrency := brief.budget.isCurrency }
  | some entry =>
      { variantId := entry.variantId
        quantity := quantity
        unitPriceAmountMinor := entry.priceAmountMinor
        currency := entry.currency
        productCategory := entry.productCategory
        variantAttributes := entry.attributes
        quantityPositive := positive
        isCurrency := entry.isCurrency }

/-- `_selection`. -/
def selectionOf (report : ExecutorReport) (lines : List ReadLine)
    (catalog : List CatalogEntry) (brief : AgentMissionBrief) : Option ObservedSelection :=
  match chosenLine report lines with
  | some line => some (describe catalog brief line.variantId line.quantity line.quantityPositive)
  | none =>
      report.selection.map fun selection =>
        describe catalog brief selection.variantId selection.quantity selection.quantityPositive

/-- A quote that exists, which stands unless the merchant could not hold the stock. -/
def observedQuote (quote : StoredQuote) (evidence : CommerceEvidence) : ObservedCheckout :=
  { created := !evidence.stockUnavailable
    checkoutId := some quote.val.id
    totalAmountMinor := some quote.val.totalAmountMinor
    currency := some quote.val.currency
    refusal := if evidence.stockUnavailable then some .outOfStock else none
    isCurrency := by
      rintro _ ⟨⟩
      exact quote.property.isCurrency
    createdShape := by
      intro created
      rw [Bool.not_eq_true'] at created
      simp [created]
    refusedShape := by
      intro refused
      rw [Bool.not_eq_false'] at refused
      simp [refused] }

/-- The refusal that a report gives for the lack of a quote. -/
def refusedQuote (refusal : CheckoutRefusal) : ObservedCheckout where
  created := false
  refusal := some refusal
  isCurrency := by rintro _ ⟨⟩
  createdShape := by rintro ⟨⟩
  refusedShape := fun _ => rfl

/-- `_quote`. -/
def quoteOf (report : ExecutorReport) (quote : Option StoredQuote)
    (evidence : CommerceEvidence) : Option ObservedCheckout :=
  match quote with
  | none =>
      report.checkout.map fun reported => refusedQuote (reported.refusal.getD .merchantRefused)
  | some quote => some (observedQuote quote evidence)

def observedPayment (attempt : PaymentAttempt) : ObservedPayment where
  status := attempt.status
  attemptId := some attempt.id
  succeededNames _ := rfl

/-- `observe`: what happened in one mission, as far as trusted state can say. -/
def observe (rows : CommerceRows) (report : ExecutorReport) (merchantId : Uuid)
    (brief : AgentMissionBrief) (catalog : List CatalogEntry) (evidence : CommerceEvidence)
    (since : Option Instant) : ObservedResult :=
  let payment := paymentOf rows merchantId report since
  let checkout := checkoutOf rows report payment evidence merchantId
  let lines := (checkout.map linesOf).getD []
  { merchantId := report.merchantId
    selection := selectionOf report lines catalog brief
    checkout := quoteOf report checkout evidence
    -- An authorization is about a quote, so without one there is none.
    authorization := if checkout.isSome then evidence.authorization else none
    payment := payment.map observedPayment
    abstention := report.abstention
    error := report.error }

/-- The mission as it is marked from what was observed. -/
def evaluateReport [CaseFolding] (rows : CommerceRows) (mission : BenchmarkMissionDefinition)
    (report : ExecutorReport) (merchantId : Uuid) (catalog : List CatalogEntry)
    (evidence : CommerceEvidence) (since : Option Instant) (fault : Option ExecutionFault) :
    MissionEvaluation :=
  let observed := observe rows report merchantId mission.brief catalog evidence since
  evaluateMission mission observed merchantId
    (some (factsFor mission.brief catalog observed.selection)) fault

end AgentRank.Benchmark
