import AgentRank.Benchmark.Report
import AgentRank.Constraints.Request

/-!
# What the trusted side observed of a mission

This module models `benchmark/observation.py`.  The facts come from the merchant's own
rows, and what a constructor refuses cannot be built.
-/

namespace AgentRank.Benchmark

open Constraints Store

structure ObservedSelection where
  variantId : Uuid
  quantity : Nat
  unitPriceAmountMinor : Nat
  currency : String
  productCategory : Option String := none
  variantAttributes : Attributes := ⟨[], List.nodup_nil⟩
  substantiated : Bool := true
  quantityPositive : 0 < quantity
  isCurrency : isCurrencyCode currency = true

def ObservedSelection.lineAmountMinor (selection : ObservedSelection) : Nat :=
  selection.quantity * selection.unitPriceAmountMinor

structure ObservedCheckout where
  created : Bool
  checkoutId : Option Uuid := none
  totalAmountMinor : Option Nat := none
  currency : Option String := none
  refusal : Option CheckoutRefusal := none
  isCurrency : ∀ code, currency = some code → isCurrencyCode code = true
  createdShape : created = true →
    totalAmountMinor.isSome ∧ currency.isSome ∧ refusal = none
  refusedShape : created = false → refusal.isSome

structure ObservedAuthorization where
  allowed : Bool
  violations : List String := []
deriving DecidableEq

structure ObservedPayment where
  status : PaymentAttemptStatus
  attemptId : Option Uuid := none
  succeededNames : status = .succeeded → attemptId.isSome

structure ObservedResult where
  merchantId : Uuid
  selection : Option ObservedSelection := none
  checkout : Option ObservedCheckout := none
  authorization : Option ObservedAuthorization := none
  payment : Option ObservedPayment := none
  abstention : Option ReportedAbstention := none
  error : Option ReportedError := none

/-- Money moved. -/
def ObservedResult.purchased (observed : ObservedResult) : Bool :=
  observed.payment.any fun payment => decide (payment.status = .succeeded)

end AgentRank.Benchmark
