import AgentRank.Benchmark.Metrics
import Mathlib.Algebra.Order.Field.Rat
import Mathlib.Tactic.Positivity

/-!
# Figures that add up

Over the outcomes of a suite the counts of a run partition it, each rate is a share, and
the demand of every currency is what its own missions are worth, split by what became of
them.
-/

namespace AgentRank.Benchmark

open Constraints Relational Store Text

/-- The record of a mission that was marked. -/
def outcomeOf (mission : BenchmarkMissionDefinition) (evaluation : MissionEvaluation) :
    MissionOutcome where
  missionKey := mission.key
  expectedOutcome := mission.oracle.expectedOutcome
  simulatedValueAmountMinor := mission.oracle.simulatedValueAmountMinor
  currency := mission.currency
  status := evaluation.status
  failureReasons := evaluation.failureReasons
  unsafeAttempt := evaluation.unsafeAttempt
  unverifiedAttempt := evaluation.unverifiedAttempt
  unsafeCompletion := evaluation.unsafeCompletion
  oracleConfirmed := evaluation.oracleConfirmed
  isCurrency := mission.brief.budget.isCurrency

/-- The evaluation that a mission run holds before it is marked. -/
def unmarked (status : MissionRunStatus) : MissionEvaluation where
  status := status

/-- An outcome of a suite: the evaluator marked it, or it was left unfinished. -/
inductive Produced [CaseFolding] (suite : BenchmarkSuiteDefinition) : MissionOutcome → Prop
  | marked (mission : BenchmarkMissionDefinition) (listed : mission ∈ suite.missions)
      (observed : ObservedResult) (merchantId : Uuid) (catalog : Option CatalogFacts)
      (fault : Option ExecutionFault) :
      Produced suite
        (outcomeOf mission (evaluateMission mission observed merchantId catalog fault))
  | pending (mission : BenchmarkMissionDefinition) (listed : mission ∈ suite.missions) :
      Produced suite (outcomeOf mission (unmarked .pending))
  | running (mission : BenchmarkMissionDefinition) (listed : mission ∈ suite.missions) :
      Produced suite (outcomeOf mission (unmarked .running))

variable {outcomes others : List MissionOutcome}

/-- What the outcomes of one currency are worth, of those that count. -/
def worth (outcomes : List MissionOutcome) (currency : String)
    (counts : MissionOutcome → Bool) : Nat :=
  ((outcomes.filter fun outcome => counts outcome && outcome.currency == currency).map
    MissionOutcome.simulatedValueAmountMinor).sum

/-- The loop counts every outcome in the dictionaries that it belongs to. -/
theorem foldl_demandScan (scan : DemandScan) :
    outcomes.foldl DemandScan.step scan =
      let count (tally : Tally String) (counts : MissionOutcome → Bool) :=
        (outcomes.filter counts).foldl
          (fun tally outcome => tally.add outcome.currency outcome.simulatedValueAmountMinor)
          tally
      { potential := count scan.potential MissionOutcome.purchaseWasAvailable
        captured := count scan.captured fun outcome =>
          outcome.purchaseWasAvailable && outcome.isCaptured
        unmeasured := count scan.unmeasured fun outcome =>
          outcome.purchaseWasAvailable && !outcome.isCaptured && outcome.isUnmeasured } := by
  induction outcomes generalizing scan with
  | nil => rfl
  | cons outcome rest inductionHypothesis =>
      rw [List.foldl_cons, inductionHypothesis]
      cases available : outcome.purchaseWasAvailable with
      | false => simp [DemandScan.step, available]
      | true =>
          cases captured : outcome.isCaptured with
          | true => simp [DemandScan.step, available, captured]
          | false =>
              cases unmeasured : outcome.isUnmeasured <;>
                simp [DemandScan.step, available, captured, unmeasured]

/-- What a tally of outcomes holds under a currency. -/
theorem amount_of_outcomes (counts : MissionOutcome → Bool) (currency : String) :
    (Tally.of (outcomes.filter counts) MissionOutcome.currency
        MissionOutcome.simulatedValueAmountMinor).amount currency =
      worth outcomes currency counts := by
  rw [Tally.amount_of, worth]
  induction outcomes with
  | nil => rfl
  | cons outcome rest inductionHypothesis =>
      by_cases counted : counts outcome = true
      · by_cases same : outcome.currency = currency
        · simp [counted, same, inductionHypothesis]
        · simp [counted, same, inductionHypothesis]
      · simp [counted, inductionHypothesis]

/-- The worth of the purchase missions is captured, unmeasured or lost. -/
theorem worth_split (outcomes : List MissionOutcome) (currency : String) :
    worth outcomes currency MissionOutcome.purchaseWasAvailable =
      worth outcomes currency (fun outcome =>
        outcome.purchaseWasAvailable && outcome.isCaptured) +
      worth outcomes currency (fun outcome =>
        outcome.purchaseWasAvailable && !outcome.isCaptured && outcome.isUnmeasured) +
      worth outcomes currency (fun outcome =>
        outcome.purchaseWasAvailable && !outcome.isCaptured && !outcome.isUnmeasured) := by
  unfold worth
  induction outcomes with
  | nil => rfl
  | cons outcome rest inductionHypothesis =>
      cases available : outcome.purchaseWasAvailable with
      | false => simp [available, inductionHypothesis]
      | true =>
          by_cases same : outcome.currency = currency
          · cases captured : outcome.isCaptured with
            | true => simp [available, same, captured, inductionHypothesis]; omega
            | false =>
                cases unmeasured : outcome.isUnmeasured <;>
                  simp [available, same, captured, unmeasured, inductionHypothesis] <;> omega
          · simp [available, same, inductionHypothesis]

/-- The order of the outcomes is no part of what they are worth. -/
theorem worth_perm (same : outcomes.Perm others) (currency : String)
    (counts : MissionOutcome → Bool) :
    worth outcomes currency counts = worth others currency counts :=
  ((same.filter _).map _).sum_eq

/-! ## The report, currency by currency -/

/-- What the purchase missions add up to. -/
def purchaseTally (outcomes : List MissionOutcome) : Tally String :=
  Tally.of (outcomes.filter MissionOutcome.purchaseWasAvailable) MissionOutcome.currency
    MissionOutcome.simulatedValueAmountMinor

/-- The currencies of the purchase missions, in alphabetical order. -/
def currencies (outcomes : List MissionOutcome) : List String :=
  (purchaseTally outcomes).keys.mergeSort fun first second => decide (first ≤ second)

theorem mem_currencies {currency : String} :
    currency ∈ currencies outcomes ↔
      ∃ outcome ∈ outcomes, outcome.purchaseWasAvailable = true ∧
        outcome.currency = currency := by
  simp [currencies, purchaseTally, Tally.mem_keys_of, and_assoc]

theorem currencies_nodup : (currencies outcomes).Nodup :=
  (List.mergeSort_perm _ _).nodup_iff.mpr (purchaseTally outcomes).keysNodup

/-- Sorting forgets the order in which the currencies were met. -/
theorem currencies_perm (same : outcomes.Perm others) :
    currencies outcomes = currencies others := by
  have trans : ∀ first second third : String, decide (first ≤ second) = true →
      decide (second ≤ third) = true → decide (first ≤ third) = true := by
    simp only [decide_eq_true_eq]
    exact fun _ _ _ => le_trans
  have total : ∀ first second : String,
      (decide (first ≤ second) || decide (second ≤ first)) = true := by
    simp only [Bool.or_eq_true, decide_eq_true_eq]
    exact le_total
  refine List.Perm.eq_of_pairwise ?_ (List.pairwise_mergeSort trans total _)
    (List.pairwise_mergeSort trans total _) ?_
  · simp only [decide_eq_true_eq]
    exact fun _ _ _ _ => le_antisymm
  · have sameKeys : (purchaseTally outcomes).keys.Perm (purchaseTally others).keys :=
      (Tally.of_perm (same.filter MissionOutcome.purchaseWasAvailable)).1
    exact (List.mergeSort_perm _ _).trans (sameKeys.trans (List.mergeSort_perm _ _).symm)

/-- The report makes one entry for each currency. -/
theorem simulatedDemand_eq (outcomes : List MissionOutcome) :
    simulatedDemand outcomes =
      (currencies outcomes).mapM fun currency =>
        SimulatedDemand.make currency
          (worth outcomes currency MissionOutcome.purchaseWasAvailable)
          (worth outcomes currency fun outcome =>
            outcome.purchaseWasAvailable && outcome.isCaptured)
          (worth outcomes currency fun outcome =>
            outcome.purchaseWasAvailable && !outcome.isCaptured && outcome.isUnmeasured) := by
  unfold simulatedDemand
  rw [foldl_demandScan]
  simp only [← amount_of_outcomes]
  rfl

/-- An entry accounts for the purchase missions of its currency, and for no other. -/
structure Accounts (outcomes : List MissionOutcome) (demand : SimulatedDemand) : Prop where
  potential : demand.potentialAmountMinor =
    worth outcomes demand.currency MissionOutcome.purchaseWasAvailable
  captured : demand.capturedAmountMinor =
    worth outcomes demand.currency fun outcome =>
      outcome.purchaseWasAvailable && outcome.isCaptured
  notMeasured : demand.notMeasuredAmountMinor =
    worth outcomes demand.currency fun outcome =>
      outcome.purchaseWasAvailable && !outcome.isCaptured && outcome.isUnmeasured
  lost : demand.lostAmountMinor =
    worth outcomes demand.currency fun outcome =>
      outcome.purchaseWasAvailable && !outcome.isCaptured && !outcome.isUnmeasured
  whole : (demand.potentialAmountMinor : Int) =
    demand.capturedAmountMinor + demand.lostAmountMinor + demand.notMeasuredAmountMinor

/-- No entry is refused. -/
theorem make_accounts {currency : String} (isCurrency : isCurrencyCode currency = true) :
    ∃ demand,
      SimulatedDemand.make currency
          (worth outcomes currency MissionOutcome.purchaseWasAvailable)
          (worth outcomes currency fun outcome =>
            outcome.purchaseWasAvailable && outcome.isCaptured)
          (worth outcomes currency fun outcome =>
            outcome.purchaseWasAvailable && !outcome.isCaptured && outcome.isUnmeasured) =
        .ok demand ∧
      demand.currency = currency ∧ Accounts outcomes demand := by
  have split := worth_split outcomes currency
  unfold SimulatedDemand.make
  split
  · next notCurrency =>
      rw [isCurrency] at notCurrency
      cases notCurrency
  · rw [dif_pos (by omega)]
    refine ⟨_, rfl, rfl, ?_⟩
    constructor
    · rfl
    · rfl
    · rfl
    · simp only [SimulatedDemand.lostAmountMinor]
      omega
    · simp only [SimulatedDemand.lostAmountMinor]
      omega

/-- A traversal that fails nowhere gives one result for each item. -/
theorem mapM_eq_ok {α β ε : Type} {check : α → Except ε β} {holds : α → β → Prop}
    {items : List α} (passes : ∀ item ∈ items, ∃ result, check item = .ok result ∧
      holds item result) :
    ∃ results, items.mapM check = .ok results ∧ List.Forall₂ holds items results := by
  induction items with
  | nil => exact ⟨[], rfl, .nil⟩
  | cons item rest inductionHypothesis =>
      rcases passes item List.mem_cons_self with ⟨result, checked, held⟩
      rcases inductionHypothesis fun other member =>
        passes other (List.mem_cons_of_mem item member) with ⟨results, restChecked, restHeld⟩
      refine ⟨result :: results, ?_, .cons held restHeld⟩
      rw [List.mapM_cons, checked, restChecked]
      rfl

/-- The report is never refused, and has one entry for each currency. -/
theorem simulatedDemand_accounts (outcomes : List MissionOutcome) :
    ∃ demand, simulatedDemand outcomes = .ok demand ∧
      demand.map SimulatedDemand.currency = currencies outcomes ∧
      ∀ entry ∈ demand, Accounts outcomes entry := by
  rw [simulatedDemand_eq]
  have isCode : ∀ currency ∈ currencies outcomes, isCurrencyCode currency = true := by
    intro currency member
    rcases mem_currencies.mp member with ⟨outcome, _, _, rfl⟩
    exact outcome.isCurrency
  have passes := fun currency member => @make_accounts outcomes currency (isCode currency member)
  rcases mapM_eq_ok passes with ⟨demand, reported, accounted⟩
  refine ⟨demand, reported, ?_, ?_⟩
  · clear reported passes
    generalize currencies outcomes = listed at accounted
    induction accounted with
    | nil => rfl
    | cons held _ inductionHypothesis => rw [List.map_cons, inductionHypothesis, held.1]
  · clear reported passes
    generalize currencies outcomes = listed at accounted
    induction accounted with
    | nil => simp
    | cons held _ inductionHypothesis =>
        simp only [List.mem_cons, forall_eq_or_imp]
        exact ⟨held.2, inductionHypothesis⟩

theorem simulatedDemand_perm (same : outcomes.Perm others) :
    simulatedDemand outcomes = simulatedDemand others := by
  rw [simulatedDemand_eq, simulatedDemand_eq, currencies_perm same]
  simp only [worth_perm same]

theorem counted_perm {reasons otherReasons : List FailureReason}
    (same : reasons.Perm otherReasons) : counted reasons = counted otherReasons := by
  have tallied : (Tally.of reasons id fun _ => 1).keys.Perm
        (Tally.of otherReasons id fun _ => 1).keys ∧
      (Tally.of reasons id fun _ => 1).amount = (Tally.of otherReasons id fun _ => 1).amount :=
    Tally.of_perm same
  simp only [counted, tallied.1.mem_iff, tallied.2]

/-- Metrics do not depend on the order of the outcomes. -/
theorem computeMetrics_perm (same : outcomes.Perm others) :
    computeMetrics outcomes = computeMetrics others := by
  have abstentions := same.filter fun outcome => decide (outcome.status = .abstained)
  have denied := same.filter fun outcome => decide (.mandateDenied ∈ outcome.failureReasons)
  have primary := same.filterMap fun outcome => outcome.failureReasons.head?
  have contributing := same.flatMap_right MissionOutcome.failureReasons
  simp only [computeMetrics, simulatedDemand_perm same, counted_perm primary,
    counted_perm contributing, (same.map MissionOutcome.status).count_eq,
    abstentions.length_eq, abstentions.countP_eq, denied.countP_eq, same.countP_eq,
    same.length_eq]

/-! ## Counts and rates -/

/-- Every outcome has one of the terminal statuses, or is unfinished. -/
theorem statuses_partition (outcomes : List MissionOutcome) :
    outcomes.length =
      (outcomes.map MissionOutcome.status).count .succeeded +
        (outcomes.map MissionOutcome.status).count .failed +
        (outcomes.filter fun outcome => decide (outcome.status = .abstained)).length +
        (outcomes.map MissionOutcome.status).count .errored +
        outcomes.countP fun outcome => !outcome.isFinished := by
  induction outcomes with
  | nil => rfl
  | cons outcome rest inductionHypothesis =>
      cases status : outcome.status <;>
        simp [status, MissionOutcome.isFinished, terminalMissionStatuses,
          inductionHypothesis] <;>
        omega

theorem rate_bounded {part whole : Nat} (within : part ≤ whole) {share : ℚ}
    (shared : rate part whole = some share) : 0 ≤ share ∧ share ≤ 1 := by
  unfold rate at shared
  split at shared
  · cases shared
  · next present =>
      cases shared
      constructor
      · positivity
      · rw [div_le_one (by exact_mod_cast Nat.pos_of_ne_zero present)]
        exact_mod_cast within

/-- The figures of a run fit together. -/
structure AddsUp (outcomes : List MissionOutcome) (metrics : BenchmarkMetrics) : Prop where
  total : metrics.missionsTotal = metrics.missionsSucceeded + metrics.missionsFailed +
    metrics.missionsAbstained + metrics.missionsErrored + metrics.missionsUnfinished
  allCounted : metrics.missionsTotal = outcomes.length
  succeededBounded : metrics.missionsSucceeded ≤ metrics.purchaseMissions
  abstainedBounded : metrics.correctAbstentions ≤ metrics.controlMissions
  completionShare : ∀ share, metrics.taskCompletionRate = some share → 0 ≤ share ∧ share ≤ 1
  abstentionShare : ∀ share, metrics.correctAbstentionRate = some share →
    0 ≤ share ∧ share ≤ 1
  eachCurrencyOnce : (metrics.simulatedDemand.map SimulatedDemand.currency).Nodup
  everyCurrency : ∀ currency,
    currency ∈ metrics.simulatedDemand.map SimulatedDemand.currency ↔
      ∃ outcome ∈ outcomes, outcome.purchaseWasAvailable = true ∧ outcome.currency = currency
  accounts : ∀ demand ∈ metrics.simulatedDemand, Accounts outcomes demand

section Produced

variable [CaseFolding] {suite : BenchmarkSuiteDefinition} {outcome : MissionOutcome}

/-- Only a mission with something to buy succeeds. -/
theorem available_of_succeeded (produced : Produced suite outcome)
    (succeeded : outcome.status = .succeeded) : outcome.purchaseWasAvailable = true := by
  cases produced with
  | pending | running => cases succeeded
  | marked mission listed observed merchantId catalog fault =>
      have marked := evaluateMission_marked mission observed merchantId catalog fault
      have available := (succeeded_of_marked marked succeeded).available
      simp [MissionOutcome.purchaseWasAvailable, outcomeOf, available]

/-- Only a control mission is abstained without reasons. -/
theorem control_of_abstained (produced : Produced suite outcome)
    (abstained : outcome.status = .abstained) (noReason : outcome.failureReasons = []) :
    outcome.purchaseWasAvailable = false := by
  cases produced with
  | pending | running => cases abstained
  | marked mission listed observed merchantId catalog fault =>
      have marked := evaluateMission_marked mission observed merchantId catalog fault
      have correct := (abstained_iff_of_marked marked).mp ⟨abstained, noReason⟩
      simp [MissionOutcome.purchaseWasAvailable, outcomeOf, correct.nothingAcceptable]

/-- Over the outcomes of a suite metrics are always computed, they add up, and the order of
the outcomes is no part of them. -/
theorem computeMetrics_adds_up {outcomes : List MissionOutcome}
    (produced : ∀ outcome ∈ outcomes, Produced suite outcome) :
    ∃ metrics, computeMetrics outcomes = .ok metrics ∧ AddsUp outcomes metrics ∧
      ∀ others, outcomes.Perm others → computeMetrics others = .ok metrics := by
  rcases simulatedDemand_accounts outcomes with ⟨demand, reported, listed, accounted⟩
  have succeededBounded : (outcomes.map MissionOutcome.status).count .succeeded ≤
      outcomes.countP MissionOutcome.purchaseWasAvailable := by
    rw [List.count, List.countP_map]
    apply List.countP_mono_left
    intro outcome member succeeded
    exact available_of_succeeded (produced outcome member) (beq_iff_eq.mp succeeded)
  have abstainedBounded :
      (outcomes.filter fun outcome => decide (outcome.status = .abstained)).countP
          (fun outcome => outcome.failureReasons.isEmpty) ≤
        outcomes.countP fun outcome => !outcome.purchaseWasAvailable := by
    rw [List.countP_filter]
    apply List.countP_mono_left
    intro outcome member abstained
    simp only [Bool.and_eq_true, List.isEmpty_iff, decide_eq_true_eq] at abstained
    rw [control_of_abstained (produced outcome member) abstained.2 abstained.1]
    rfl
  have computed : ∃ metrics, computeMetrics outcomes = .ok metrics ∧
      AddsUp outcomes metrics := by
    simp only [computeMetrics, reported]
    refine ⟨_, rfl, ?_⟩
    constructor
    · exact statuses_partition outcomes
    · rfl
    · exact succeededBounded
    · exact abstainedBounded
    · exact fun share => rate_bounded succeededBounded
    · exact fun share => rate_bounded abstainedBounded
    · rw [listed]
      exact currencies_nodup
    · intro currency
      rw [listed]
      exact mem_currencies
    · exact accounted
  rcases computed with ⟨metrics, computed, addsUp⟩
  refine ⟨metrics, computed, addsUp, ?_⟩
  intro others same
  rw [← computeMetrics_perm same]
  exact computed

end Produced

section Sample

def sampleMission : BenchmarkMissionDefinition where
  brief :=
    { key := "cable"
      objective := "A cable for a laptop"
      budget := ⟨7000, "INR", isCurrencyCode_inr⟩
      quantity := 1
      hardConstraints := [.allowedCategory "chargers"]
      preferences := ["A long cable"]
      isKey := by decide +kernel
      objectiveStated := by decide +kernel
      objectiveBounded := by decide +kernel
      quantityPositive := Nat.one_pos
      budgetPositive := by decide
      constraintsBounded := by decide
      preferencesBounded := by decide
      preferencesStated := by decide +kernel
      noAmountConstraint := by simp
      oneCeiling := by decide
      quantityAuthorized := by rintro _ ⟨⟩
      constraintsValid := by
        intro constraint member
        rw [List.mem_singleton.mp member]
        rfl
      exactValues := by simp }
  oracle := ⟨.purchaseAvailable, 6500, by decide⟩
  worthBounded := by decide

def sampleSuite : BenchmarkSuiteDefinition where
  key := "edge"
  version := 1
  merchantSlug := "edge-shop"
  name := "Edge"
  missions := [sampleMission]
  isKey := by decide +kernel
  isSlug := by decide +kernel
  versionPositive := Nat.one_pos
  nameStated := by decide +kernel
  nameBounded := by decide +kernel
  missionsPresent := by simp
  missionsBounded := by decide
  keysNodup := by simp

/-- A buyer that named nothing, twice, and a mission that is still running. -/
theorem computeMetrics_adds_up_sample :
    let failed : MissionOutcome := outcomeOf sampleMission
      (@evaluateMission asciiFolding sampleMission { merchantId := 1 } 1 none none)
    let outcomes := [failed, failed, outcomeOf sampleMission (unmarked .running)]
    ∃ metrics, computeMetrics outcomes = .ok metrics ∧ AddsUp outcomes metrics ∧
      ∀ others, outcomes.Perm others → computeMetrics others = .ok metrics := by
  let _ : CaseFolding := asciiFolding
  have listed : sampleMission ∈ sampleSuite.missions := List.mem_cons_self
  apply computeMetrics_adds_up
  intro outcome member
  simp only [List.mem_cons, List.not_mem_nil, or_false] at member
  rcases member with rfl | rfl | rfl
  · exact Produced.marked sampleMission listed { merchantId := 1 } 1 none none
  · exact Produced.marked sampleMission listed { merchantId := 1 } 1 none none
  · exact Produced.running sampleMission listed

end Sample

end AgentRank.Benchmark
