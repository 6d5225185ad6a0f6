import AgentRank.Store.Models

/-!
# What a buyer reports, and what went wrong around it

This module models `benchmark/report.py` and `benchmark/faults.py`.  A report holds
identifiers and actions only.  What its constructors refuse cannot be built here.
-/

namespace AgentRank.Benchmark

open Store Text

inductive AbstentionCode
  | noCandidateFound
  | noCompliantCandidate
  | merchantDataInsufficient
  | budgetInsufficient
deriving DecidableEq

inductive CheckoutRefusal
  | outOfStock
  | variantUnavailable
  | merchantRefused
deriving DecidableEq

structure ReportedSelection where
  variantId : Uuid
  quantity : Nat
  quantityPositive : 0 < quantity

instance : DecidableEq ReportedSelection := fun first second =>
  if same : first.variantId = second.variantId ∧ first.quantity = second.quantity then
    .isTrue (by cases first; cases second; cases same.1; cases same.2; rfl)
  else .isFalse (by rintro rfl; exact same ⟨rfl, rfl⟩)

/-- A checkout report names a quote or says why there is none. -/
structure ReportedCheckout where
  checkoutId : Option Uuid
  refusal : Option CheckoutRefusal
  namedOrRefused : checkoutId.isSome ∨ refusal.isSome
deriving DecidableEq

structure ReportedPayment where
  attemptId : Uuid
deriving DecidableEq

structure ReportedAbstention where
  code : AbstentionCode
  detail : Option String
deriving DecidableEq

structure ReportedError where
  detail : String
  detailStated : isBlank detail = false
deriving DecidableEq

structure ExecutorReport where
  merchantId : Uuid
  selection : Option ReportedSelection := none
  checkout : Option ReportedCheckout := none
  payment : Option ReportedPayment := none
  abstention : Option ReportedAbstention := none
  error : Option ReportedError := none
deriving DecidableEq

/-- Whose failure an interruption was. -/
inductive FaultOrigin
  | merchant
  | agent
  | harness
deriving DecidableEq

/-- Something that trusted code saw go wrong.  Every one is built with a fixed text in front,
so its detail is never blank. -/
structure ExecutionFault where
  origin : FaultOrigin
  detail : String
  operation : Option String := none
deriving DecidableEq

end AgentRank.Benchmark
