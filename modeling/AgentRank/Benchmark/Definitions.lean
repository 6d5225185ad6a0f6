import AgentRank.Constraints.Request

/-!
# Missions and suites as they are authored

This module models `benchmark/definitions.py`: what a buyer is told, what the author
claims is true of the catalog, and the suite both belong to.  What a constructor checks
is a field, so an invalid mission cannot be built.
-/

namespace AgentRank.Benchmark

open Constraints Text

def maxKeyLength : Nat := 64
def maxNameLength : Nat := 200
def maxMissions : Nat := 200
def maxDescriptionLength : Nat := 1000
def maxPreferences : Nat := 20
def maxStatementLength : Nat := 200

inductive ExpectedOutcome
  | purchaseAvailable
  | noAcceptablePurchase
deriving DecidableEq

/-- Lowercase letters and digits, in parts that single hyphens join. -/
def isKey (value : String) : Bool :=
  decide (value.length ≤ maxKeyLength) &&
    (value.toList.splitOn '-').all fun part =>
      !part.isEmpty &&
        part.all fun char => ('a' ≤ char && char ≤ 'z') || ('0' ≤ char && char ≤ '9')

structure MaxTotalAmount where
  amountMinor : Nat
  currency : String
  isCurrency : isCurrencyCode currency = true

instance : DecidableEq MaxTotalAmount := fun first second =>
  if same : first.amountMinor = second.amountMinor ∧ first.currency = second.currency then
    .isTrue (by cases first; cases second; cases same.1; cases same.2; rfl)
  else .isFalse (by rintro rfl; exact same ⟨rfl, rfl⟩)

/-- A value that no fraction occurs in. -/
def exactScalar : ScalarValue → Bool
  | .number (.finite value) => value.den = 1
  | .number _ => false
  | .string _ | .boolean _ => true

/-- `_require_exact_values`. -/
def exactValue : ConstraintValue → Bool
  | .single value => exactScalar value
  | .tuple members => members.all exactScalar

def isMaxQuantity : HardConstraint → Bool
  | .maxQuantity _ => true
  | _ => false

/-- The first quantity ceiling that is stated. -/
def statedMaxQuantity : List HardConstraint → Option Int
  | [] => none
  | .maxQuantity quantity :: _ => some quantity
  | _ :: rest => statedMaxQuantity rest

/-- A preference is stated, and within its bound. -/
def isStatement (statement : String) : Bool :=
  !isBlank statement && decide (statement.length ≤ maxStatementLength)

/-- What a buyer wants. -/
structure AgentMissionBrief where
  key : String
  objective : String
  budget : MaxTotalAmount
  quantity : Nat
  hardConstraints : List HardConstraint
  preferences : List String
  isKey : isKey key = true
  objectiveStated : isBlank objective = false
  objectiveBounded : objective.length ≤ maxDescriptionLength
  quantityPositive : 0 < quantity
  budgetPositive : 0 < budget.amountMinor
  constraintsBounded : hardConstraints.length ≤ maxHardConstraints
  preferencesBounded : preferences.length ≤ maxPreferences
  preferencesStated : ∀ statement ∈ preferences, isStatement statement = true
  noAmountConstraint : ∀ amountMinor currency,
    .maxTotalAmount amountMinor currency ∉ hardConstraints
  oneCeiling : hardConstraints.countP isMaxQuantity ≤ 1
  quantityAuthorized : ∀ ceiling, statedMaxQuantity hardConstraints = some ceiling →
    (quantity : Int) ≤ ceiling
  constraintsValid : ∀ constraint ∈ hardConstraints, constraint.validate = .ok ()
  exactValues : ∀ name operator value,
    .requiredAttribute name operator value ∈ hardConstraints → exactValue value = true

namespace AgentMissionBrief

def currency (brief : AgentMissionBrief) : String :=
  brief.budget.currency

def maxQuantity (brief : AgentMissionBrief) : Option Int :=
  statedMaxQuantity brief.hardConstraints

/-- The categories that the buyer allows, in the order stated. -/
def allowedCategories (brief : AgentMissionBrief) : List String :=
  brief.hardConstraints.filterMap fun constraint =>
    match constraint with
    | .allowedCategory category => some category
    | _ => none

@[simp]
theorem mem_allowedCategories {brief : AgentMissionBrief} {category : String} :
    category ∈ brief.allowedCategories ↔ .allowedCategory category ∈ brief.hardConstraints := by
  rw [allowedCategories, List.mem_filterMap]
  constructor
  · rintro ⟨constraint, stated, categoryEq⟩
    cases constraint with
    | allowedCategory other =>
        cases categoryEq
        exact stated
    | maxTotalAmount | maxQuantity | requiredAttribute => cases categoryEq
  · intro stated
    exact ⟨_, stated, rfl⟩

end AgentMissionBrief

/-- What the author states about the catalog, for the evaluator alone. -/
structure MissionOracle where
  expectedOutcome : ExpectedOutcome
  simulatedValueAmountMinor : Nat
  valueShape : expectedOutcome = .purchaseAvailable ↔ 0 < simulatedValueAmountMinor

structure BenchmarkMissionDefinition where
  brief : AgentMissionBrief
  oracle : MissionOracle
  worthBounded : oracle.simulatedValueAmountMinor ≤ brief.budget.amountMinor

def BenchmarkMissionDefinition.key (mission : BenchmarkMissionDefinition) : String :=
  mission.brief.key

def BenchmarkMissionDefinition.currency (mission : BenchmarkMissionDefinition) : String :=
  mission.brief.currency

structure BenchmarkSuiteDefinition where
  key : String
  version : Nat
  merchantSlug : String
  name : String
  missions : List BenchmarkMissionDefinition
  isKey : isKey key = true
  isSlug : Benchmark.isKey merchantSlug = true
  versionPositive : 1 ≤ version
  nameStated : isBlank name = false
  nameBounded : name.length ≤ maxNameLength
  missionsPresent : missions ≠ []
  missionsBounded : missions.length ≤ maxMissions
  keysNodup : (missions.map BenchmarkMissionDefinition.key).Nodup

end AgentRank.Benchmark
