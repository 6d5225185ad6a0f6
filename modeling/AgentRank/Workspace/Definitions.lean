import AgentRank.Benchmark.Definitions

/-!
# What a workspace is made of

This module models `workspace/definitions.py`: the shapes of a generated mission, the order they
are drawn in, and the key a mission gets.
-/

namespace AgentRank.Workspace


/-- The shape of one generated mission. -/
inductive MissionFamily
  | categoryPurchase
  | budgetConstrainedPurchase
  | multiUnitPurchase
  | specificationPurchase
  | budgetAbstention
  | stockAbstention
  | unavailableAbstention
  | specificationAbstention
  | policyConstraint
deriving DecidableEq

def MissionFamily.value : MissionFamily → String
  | categoryPurchase => "CATEGORY_PURCHASE"
  | budgetConstrainedPurchase => "BUDGET_CONSTRAINED_PURCHASE"
  | multiUnitPurchase => "MULTI_UNIT_PURCHASE"
  | specificationPurchase => "SPECIFICATION_PURCHASE"
  | budgetAbstention => "BUDGET_ABSTENTION"
  | stockAbstention => "STOCK_ABSTENTION"
  | unavailableAbstention => "UNAVAILABLE_ABSTENTION"
  | specificationAbstention => "SPECIFICATION_ABSTENTION"
  | policyConstraint => "POLICY_CONSTRAINT"

/-- The order families are drawn in.  Purchases and abstentions alternate. -/
def familyOrder : List MissionFamily :=
  [.categoryPurchase, .budgetAbstention, .budgetConstrainedPurchase, .unavailableAbstention,
    .specificationPurchase, .stockAbstention, .multiUnitPurchase, .specificationAbstention]

theorem familyOrder_nodup : familyOrder.Nodup := by
  decide

/-- `family.value.lower().replace('_', '-')`. -/
def MissionFamily.slug (family : MissionFamily) : String :=
  String.ofList (family.value.toList.map fun char => if char = '_' then '-' else char.toLower)

/-- `ordinal:02d`. -/
def twoDigits (ordinal : Nat) : String :=
  if ordinal < 10 then "0" ++ toString ordinal else toString ordinal

def missionKey (family : MissionFamily) (ordinal : Nat) : String :=
  family.slug ++ "-" ++ twoDigits ordinal

/-- How many missions of one family a suite holds, and what they expect. -/
structure FamilyComposition where
  family : MissionFamily
  missions : Nat
  purchaseAvailable : Nat
  noAcceptablePurchase : Nat

end AgentRank.Workspace
