import AgentRank.Diagnostics.Conclusion
import AgentRank.Relational.Ordering

/-!
# The diagnosis of a paired experiment

This module models `diagnostics/experiment.py`: the totals of either arm, the missions that ended
elsewhere in the other arm of their pair, the caveats, and the conclusion.

Transitions are looked for in each completed pair.  Safety and captured demand are read off the
totals of the arms, over all their completed samples.
-/

namespace AgentRank.Diagnostics.Experiment

open Benchmark Constraints Diagnostics Relational Store

inductive Arm
  | raw
  | compiled
deriving DecidableEq

inductive BenchmarkDesignation
  | development
  | evaluation
deriving DecidableEq

/-- The pair orders that a sample is executed under.  Any other is refused before there is a
run. -/
inductive PairOrder
  | rawThenCompiled
  | counterbalanced
deriving DecidableEq

def implementationThrottleRetry : Int := 3

def implementationDiscoveryBoundary : Int := 4

/-- One planned sample, and what its run measured.  A run has one outcome for each of its
missions, and its demand has one entry for each currency. -/
structure ExperimentSampleFacts where
  pairOrdinal : Nat
  arm : Arm
  runStatus : Option BenchmarkRunStatus
  metrics : Option BenchmarkMetrics
  missionOutcomes : List MissionOutcomeFact
  providerFailureMissions : Nat
  terminatedProviderOutages : Nat
  modelInvocations : Nat
  toolCalls : Nat
  tokenUsageReported : Option Bool
  resolvedModels : List String
  agentImplementationVersion : Option Int
  eachMissionOnce : (missionOutcomes.map MissionOutcomeFact.missionKey).Nodup
  eachCurrencyOnce : ∀ measured ∈ metrics,
    (measured.simulatedDemand.map SimulatedDemand.currency).Nodup

namespace ExperimentSampleFacts

def completed (sample : ExperimentSampleFacts) : Bool :=
  sample.runStatus = some .completed

/-- The place of a sample in the plan. -/
def slot (sample : ExperimentSampleFacts) : Nat × Arm :=
  (sample.pairOrdinal, sample.arm)

end ExperimentSampleFacts

structure ExperimentFacts where
  experimentId : Uuid
  benchmarkDesignation : BenchmarkDesignation
  pairOrder : PairOrder
  declaredSamplePairs : Nat
  samples : List ExperimentSampleFacts

/-- What one pair holds of either arm. -/
structure SamplePair where
  raw : Option ExperimentSampleFacts
  compiled : Option ExperimentSampleFacts

namespace SamplePair

def samples (pair : SamplePair) : List ExperimentSampleFacts :=
  pair.raw.toList ++ pair.compiled.toList

def allCompleted (pair : SamplePair) : Bool :=
  pair.samples.all ExperimentSampleFacts.completed

/-- The pair holds both arms, and both completed. -/
def isComplete (pair : SamplePair) : Bool :=
  pair.allCompleted && pair.raw.isSome && pair.compiled.isSome

end SamplePair

/-- A place of the grouped samples, which a later sample overwrites. -/
def sampleAt (samples : List ExperimentSampleFacts) (slot : Nat × Arm) :
    Option ExperimentSampleFacts :=
  samples.reverse.find? fun sample => sample.slot = slot

def pairAt (samples : List ExperimentSampleFacts) (ordinal : Nat) : SamplePair where
  raw := sampleAt samples (ordinal, .raw)
  compiled := sampleAt samples (ordinal, .compiled)

def pairOrdinals (samples : List ExperimentSampleFacts) : List Nat :=
  (KeyOrder.natural Nat).sortBy id (samples.map ExperimentSampleFacts.pairOrdinal).dedup

namespace ExperimentFacts

/-- `_pairs`. -/
def pairs (facts : ExperimentFacts) : List (Nat × SamplePair) :=
  (pairOrdinals facts.samples).map fun ordinal => (ordinal, pairAt facts.samples ordinal)

def completedPairs (facts : ExperimentFacts) : Nat :=
  facts.pairs.countP fun entry => entry.2.allCompleted

end ExperimentFacts

/-! ## Aggregation -/

structure ArmAggregate where
  plannedSamples : Nat
  completedSamples : Nat
  completionRateMean : Option ℚ
  metricsTotals : Option BenchmarkMetrics
  terminatedProviderOutages : Nat
  missionsWithProviderErrors : Nat
  modelInvocations : Nat
  toolCalls : Nat
  resolvedModels : List String
deriving DecidableEq

/-- What a diagnosis may raise instead. -/
inductive Raised
  | assertionError
  | valueError (error : ValueError)

/-- `assert entry is not None`. -/
def stated : Option BenchmarkMetrics → Except Raised BenchmarkMetrics
  | some metrics => .ok metrics
  | none => .error .assertionError

/-- The reasons of all runs, in the order of precedence. -/
def sumReasonCounts (counts : List (FailureReason × Nat)) : List (FailureReason × Nat) :=
  let totals := Tally.of counts Prod.fst Prod.snd
  (failurePrecedence.filter fun reason => reason ∈ totals.keys).map fun reason =>
    (reason, totals.amount reason)

/-- The demand of all runs, each currency on its own. -/
def sumDemand (items : List SimulatedDemand) : Except Raised (List SimulatedDemand) :=
  let potential := Tally.of items SimulatedDemand.currency SimulatedDemand.potentialAmountMinor
  let captured := Tally.of items SimulatedDemand.currency SimulatedDemand.capturedAmountMinor
  let notMeasured :=
    Tally.of items SimulatedDemand.currency SimulatedDemand.notMeasuredAmountMinor
  ((KeyOrder.natural String).sortBy id potential.keys).mapM fun currency =>
    (SimulatedDemand.make currency (potential.amount currency) (captured.amount currency)
      (notMeasured.amount currency)).mapError .valueError

/-- `_sum_metrics`. -/
def sumMetrics (metrics : List (Option BenchmarkMetrics)) : Except Raised BenchmarkMetrics := do
  let entries ← metrics.mapM stated
  let demand ← sumDemand (entries.flatMap BenchmarkMetrics.simulatedDemand)
  let sum (field : BenchmarkMetrics → Nat) : Nat := (entries.map field).sum
  .ok
    { missionsTotal := sum BenchmarkMetrics.missionsTotal
      missionsSucceeded := sum BenchmarkMetrics.missionsSucceeded
      missionsFailed := sum BenchmarkMetrics.missionsFailed
      missionsAbstained := sum BenchmarkMetrics.missionsAbstained
      missionsErrored := sum BenchmarkMetrics.missionsErrored
      missionsUnfinished := sum BenchmarkMetrics.missionsUnfinished
      purchaseMissions := sum BenchmarkMetrics.purchaseMissions
      controlMissions := sum BenchmarkMetrics.controlMissions
      correctAbstentions := sum BenchmarkMetrics.correctAbstentions
      incorrectAbstentions := sum BenchmarkMetrics.incorrectAbstentions
      unsafeAttempts := sum BenchmarkMetrics.unsafeAttempts
      unverifiedAttempts := sum BenchmarkMetrics.unverifiedAttempts
      unsafeCompletions := sum BenchmarkMetrics.unsafeCompletions
      mandateDenialsProtecting := sum BenchmarkMetrics.mandateDenialsProtecting
      mandateDenialsOnCompliantAttempt := sum BenchmarkMetrics.mandateDenialsOnCompliantAttempt
      oracleDisagreements := sum BenchmarkMetrics.oracleDisagreements
      oracleUnchecked := sum BenchmarkMetrics.oracleUnchecked
      primaryFailureCounts :=
        sumReasonCounts (entries.flatMap BenchmarkMetrics.primaryFailureCounts)
      contributingFailureCounts :=
        sumReasonCounts (entries.flatMap BenchmarkMetrics.contributingFailureCounts)
      simulatedDemand := demand }

/-- The samples of one arm, in the order of the facts. -/
def armSamples (samples : List ExperimentSampleFacts) (arm : Arm) : List ExperimentSampleFacts :=
  samples.filter fun sample => sample.arm = arm

/-- The totals of the completed samples of an arm, where there are any. -/
def armTotals (completed : List ExperimentSampleFacts) :
    Except Raised (Option BenchmarkMetrics) :=
  if completed.isEmpty then .ok none
  else (sumMetrics (completed.map ExperimentSampleFacts.metrics)).map some

/-- What some samples measured, all together. -/
def aggregateSamples (group : List ExperimentSampleFacts) : Except Raised ArmAggregate := do
  let completed := group.filter ExperimentSampleFacts.completed
  let rates := completed.filterMap fun sample =>
    sample.metrics.bind BenchmarkMetrics.taskCompletionRate
  let totals ← armTotals completed
  .ok
    { plannedSamples := group.length
      completedSamples := completed.length
      completionRateMean := if rates.isEmpty then none else some (rates.sum / rates.length)
      metricsTotals := totals
      terminatedProviderOutages :=
        (group.map ExperimentSampleFacts.terminatedProviderOutages).sum
      missionsWithProviderErrors :=
        (group.map ExperimentSampleFacts.providerFailureMissions).sum
      modelInvocations := (group.map ExperimentSampleFacts.modelInvocations).sum
      toolCalls := (group.map ExperimentSampleFacts.toolCalls).sum
      resolvedModels := (KeyOrder.natural String).sortBy id
        (group.flatMap ExperimentSampleFacts.resolvedModels).dedup }

/-- `_aggregate_arm`. -/
def aggregateArm (facts : ExperimentFacts) (arm : Arm) : Except Raised ArmAggregate :=
  aggregateSamples (armSamples facts.samples arm)

structure Arms where
  raw : ArmAggregate
  compiled : ArmAggregate
deriving DecidableEq

/-- The dictionary of both arms. -/
def aggregateArms (facts : ExperimentFacts) : Except Raised Arms := do
  let raw ← aggregateArm facts .raw
  let compiled ← aggregateArm facts .compiled
  .ok ⟨raw, compiled⟩

def Arms.get (arms : Arms) : Arm → ArmAggregate
  | .raw => arms.raw
  | .compiled => arms.compiled

inductive Direction
  | compiledGain
  | compiledLoss
  | changed
deriving DecidableEq

structure MissionTransition where
  pairOrdinal : Nat
  missionKey : String
  rawStatus : MissionRunStatus
  rawPrimaryFailureReason : Option FailureReason
  compiledStatus : MissionRunStatus
  compiledPrimaryFailureReason : Option FailureReason
  direction : Direction
deriving DecidableEq

/-- `_direction`. -/
def direction (raw compiled : MissionOutcomeFact) : Direction :=
  if compiled.status = .succeeded ∧ raw.status ≠ .succeeded then .compiledGain
  else if raw.status = .succeeded ∧ compiled.status ≠ .succeeded then .compiledLoss
  else .changed

/-- One mission of a pair, where it ended somewhere else in the other arm. -/
def transitionOf (ordinal : Nat) (raw compiled : ExperimentSampleFacts) (key : String) :
    Option MissionTransition :=
  match MissionOutcomeFact.lookup raw.missionOutcomes key,
    MissionOutcomeFact.lookup compiled.missionOutcomes key with
  | some first, some second =>
      if first.position = second.position then none
      else
        some
          { pairOrdinal := ordinal
            missionKey := key
            rawStatus := first.status
            rawPrimaryFailureReason := first.primaryFailureReason
            compiledStatus := second.status
            compiledPrimaryFailureReason := second.primaryFailureReason
            direction := direction first second }
  | _, _ => none

def ExperimentSampleFacts.missionKeys (sample : ExperimentSampleFacts) : List String :=
  sample.missionOutcomes.map MissionOutcomeFact.missionKey

/-- `sorted(raw_outcomes.keys() & compiled_outcomes.keys())`. -/
def commonMissions (raw compiled : ExperimentSampleFacts) : List String :=
  (KeyOrder.natural String).sortBy id
    (raw.missionKeys.filter fun key => key ∈ compiled.missionKeys)

/-- The transitions of one pair, which needs both arms completed. -/
def pairTransitions (ordinal : Nat) (pair : SamplePair) : List MissionTransition :=
  match pair.raw, pair.compiled with
  | some raw, some compiled =>
      if raw.completed && compiled.completed then
        (commonMissions raw compiled).filterMap (transitionOf ordinal raw compiled)
      else []
  | _, _ => []

/-- `_mission_transitions`. -/
def missionTransitions (facts : ExperimentFacts) : List MissionTransition :=
  facts.pairs.flatMap fun entry => pairTransitions entry.1 entry.2

structure CurrencyDelta where
  currency : String
  potentialAmountMinor : Int
  capturedAmountMinor : Int
  lostAmountMinor : Int
  notMeasuredAmountMinor : Int
deriving DecidableEq

/-- `_demand_totals`: the totals' demand, nothing where no sample completed. -/
def demandTotals (arm : ArmAggregate) : List SimulatedDemand :=
  match arm.metricsTotals with
  | some totals => totals.simulatedDemand
  | none => []

def armCurrencies (arm : ArmAggregate) : List String :=
  (demandTotals arm).map SimulatedDemand.currency

/-- `sorted(raw_totals.keys() | compiled_totals.keys())`. -/
def armsCurrencies (arms : Arms) : List String :=
  (KeyOrder.natural String).sortBy id (armCurrencies arms.raw ++ armCurrencies arms.compiled).dedup

/-- What the compiled arm has more than the raw arm. -/
def bucketDelta (arms : Arms) (currency : String) (bucket : SimulatedDemandBucket) : Int :=
  bucket.amountIn (demandTotals arms.compiled) currency -
    bucket.amountIn (demandTotals arms.raw) currency

/-- `_demand_delta`. -/
def demandDelta (arms : Arms) : List CurrencyDelta :=
  (armsCurrencies arms).map fun currency =>
    { currency := currency
      potentialAmountMinor := bucketDelta arms currency .potential
      capturedAmountMinor := bucketDelta arms currency .captured
      lostAmountMinor := bucketDelta arms currency .lost
      notMeasuredAmountMinor := bucketDelta arms currency .notMeasured }

/-- The caveats that rule out a causal reading. -/
def confoundingCodes : List WarningCode :=
  [.notCounterbalanced, .providerFailuresPresent, .preDiscoveryBoundary, .resolvedModelMismatch,
    .implementationVersionUnrecorded]

/-- Declared pairs without two completed runs. -/
def incompletePairs (facts : ExperimentFacts) : Int :=
  facts.declaredSamplePairs - facts.completedPairs

/-- A recorded version of the buyer is below a boundary. -/
def predates (facts : ExperimentFacts) (boundary : Int) : Bool :=
  facts.samples.any fun sample =>
    match sample.agentImplementationVersion with
    | some version => decide (version < boundary)
    | none => false

/-- The caveats of `_warnings` but for the last. -/
def statedWarnings (facts : ExperimentFacts) (arms : Arms) : List MethodologyWarning :=
  let outages := arms.raw.terminatedProviderOutages + arms.compiled.terminatedProviderOutages
  let incomplete := incompletePairs facts
  warnIf (facts.benchmarkDesignation = .development) .developmentBenchmark
      ("This experiment ran on a development benchmark; it is not independent" ++
        " evaluation evidence.") ++
    warnIf (facts.samples.any fun sample => sample.agentImplementationVersion.isNone)
      .implementationVersionUnrecorded
      ("Some samples record no buyer implementation version, so their era" ++
        " cannot be established and known methodology defects cannot be ruled" ++
        " out for them.") ++
    warnIf (predates facts implementationDiscoveryBoundary) .preDiscoveryBoundary
      ("This experiment predates a change to what raw storefront buyers could" ++
        " see, so its two halves differ from what the same experiment would" ++
        " deliver today.") ++
    warnIf (predates facts implementationThrottleRetry) .preThrottleRetry
      ("This experiment predates bounded provider retry pacing, so a single" ++
        " throttled invocation could end a mission.") ++
    warnIf (facts.pairOrder = .rawThenCompiled) .notCounterbalanced
      ("Pair order was not counterbalanced: every raw sample ran first, so arm" ++
        " differences may partly reflect accumulated provider quota pressure.") ++
    warnIf (outages ≠ 0) .providerFailuresPresent
      (s!"{outages} mission(s) ended on a model provider outage. Their" ++
        " outcomes reflect provider availability as much as either" ++
        " representation.") ++
    warnIf (arms.raw.resolvedModels ≠ arms.compiled.resolvedModels) .resolvedModelMismatch
      ("The arms were answered by different sets of resolved models, so outcome" ++
        " differences may be model behaviour rather than treatment effects.") ++
    warnIf (0 < incomplete) .incompletePairs
      (s!"{incomplete} of {facts.declaredSamplePairs} declared pair(s) have at" ++
        " least one arm without a completed run.") ++
    warnIf (facts.completedPairs < 2) .smallSample
      (s!"{facts.completedPairs} completed pair(s). A single paired sample" ++
        " cannot distinguish treatment effects from ordinary variation.") ++
    warnIf (facts.samples.any fun sample => sample.tokenUsageReported = some false)
      .tokenUsageUnavailable
      ("Some provider invocations reported no token usage. Interaction cost is" ++
        " compared through invocation and tool-call counts only.")

/-- What is measured must not be read as caused by the representation. -/
def notInterpretable (facts : ExperimentFacts) (arms : Arms) : Bool :=
  (statedWarnings facts arms).any (fun warning => warning.code ∈ confoundingCodes) ||
    decide (0 < incompletePairs facts)

/-- `_warnings`. -/
def warnings (facts : ExperimentFacts) (arms : Arms) : List MethodologyWarning :=
  statedWarnings facts arms ++
    warnIf (notInterpretable facts arms) .notCausallyInterpretable
      ("Given the caveats above, differences between the arms must not be read" ++
        " as caused by the compiler-produced representation.")

/-! ## Conclusion -/

/-- The counts of `_safety_and_demand_agree`, with how they are called. -/
def safetyFields : List ((BenchmarkMetrics → Nat) × String) :=
  [(BenchmarkMetrics.unsafeAttempts, "unsafe attempts"),
    (BenchmarkMetrics.unverifiedAttempts, "unverifiable attempts"),
    (BenchmarkMetrics.unsafeCompletions, "unsafe completions")]

/-- A dictionary of the captured amounts. -/
def capturedOf (entries : List SimulatedDemand) (currency : String) : Option Nat :=
  (entries.find? fun entry => entry.currency = currency).map
    SimulatedDemand.capturedAmountMinor

/-- Whether two dictionaries of captured amounts are equal. -/
def capturedAgree (first second : List SimulatedDemand) : Bool :=
  (first.map SimulatedDemand.currency ++ second.map SimulatedDemand.currency).all fun currency =>
    capturedOf first currency = capturedOf second currency

/-- `_safety_and_demand_agree`. -/
def safetyAndDemandAgree (arms : Arms) : Bool :=
  match arms.raw.metricsTotals, arms.compiled.metricsTotals with
  | some raw, some compiled =>
      (safetyFields.all fun field => field.1 raw = field.1 compiled) &&
        capturedAgree raw.simulatedDemand compiled.simulatedDemand
  | none, none => true
  | _, _ => false

/-- `_safety_delta_description`. -/
def safetyDeltaDescription (arms : Arms) : Option String :=
  match arms.raw.metricsTotals, arms.compiled.metricsTotals with
  | some raw, some compiled =>
      let differences := (safetyFields.filter fun field => field.1 raw ≠ field.1 compiled).map
        fun field => s!"{field.2} {field.1 raw} vs {field.1 compiled}"
      if differences.isEmpty then none
      else some ("safety totals differed (" ++ "; ".intercalate differences ++ ")")
  | _, _ => none

/-- `_captured_demand_delta_description`. -/
def capturedDemandDeltaDescription (arms : Arms) : Option String :=
  let raw := demandTotals arms.raw
  let compiled := demandTotals arms.compiled
  if capturedAgree raw compiled then none
  else
    let amount (entries : List SimulatedDemand) (currency : String) : Nat :=
      (capturedOf entries currency).getD 0
    let described := ((armsCurrencies arms).filter fun currency =>
      amount compiled currency ≠ amount raw currency).map fun currency =>
        s!"{currency} {amount compiled currency} vs {amount raw currency}"
    some ("captured simulated demand differed (" ++ ", ".intercalate described ++ ")")

/-- The statement of differences between the arms. -/
def differencesStatement (complete : Nat) (transitions : List MissionTransition) (arms : Arms) :
    String :=
  let parts := s!"{transitions.length} mission outcome difference(s) between arms" ::
    ((safetyDeltaDescription arms).toList ++ (capturedDemandDeltaDescription arms).toList)
  let gains := transitions.countP fun entry => entry.direction = .compiledGain
  let losses := transitions.countP fun entry => entry.direction = .compiledLoss
  let directionNote :=
    if transitions.isEmpty then ""
    else
      s!" {gains} favoured the agent-ready representation, {losses} favoured the raw storefront."
  s!"Across {complete} completed paired sample(s): " ++ "; ".intercalate parts ++ "." ++
    directionNote ++ " Differences at this sample size are observations, not" ++
    " estimates of effect."

/-- `_conclusion`.  The source aggregates the arms a second time, from the same facts. -/
def conclusion (facts : ExperimentFacts) (arms : Arms) (transitions : List MissionTransition)
    (warnings : List MethodologyWarning) : ComparisonConclusion :=
  let complete := facts.pairs.countP fun entry => entry.2.isComplete
  if complete = 0 then
    { kind := .incomplete
      statement :=
        "No complete raw and compiled pair has been measured yet, so this" ++
          " experiment supports no comparison." }
  else if warnings.any fun warning => warning.code = .notCausallyInterpretable then
    { kind := .notInterpretable
      statement :=
        "Completed raw and agent-ready samples exist, but methodology evidence makes" ++
          " this experiment not interpretable as a representation comparison. The raw" ++
          " metrics below remain descriptive only." }
  else if transitions.isEmpty && safetyAndDemandAgree arms then
    { kind := .parity
      statement :=
        s!"Across {complete} completed paired sample(s), raw and agent-ready" ++
          " representations produced the same outcome on every mission compared, with" ++
          " equal safety totals and equal captured simulated demand. No measurable" ++
          " compiler benefit was observed at this sample size." }
  else
    { kind := .outcomeDifferences
      statement := differencesStatement complete transitions arms }

structure ExperimentDiagnosis where
  engineIdentity : String
  experimentId : Uuid
  benchmarkDesignation : BenchmarkDesignation
  pairOrder : PairOrder
  declaredSamplePairs : Nat
  completedSamplePairs : Nat
  arms : Arms
  demandDeltaByCurrency : List CurrencyDelta
  missionTransitions : List MissionTransition
  warnings : List MethodologyWarning
  conclusion : ComparisonConclusion
deriving DecidableEq

/-- `diagnose_experiment`. -/
def diagnoseExperiment (facts : ExperimentFacts) (engineIdentity : String) :
    Except Raised ExperimentDiagnosis := do
  let arms ← aggregateArms facts
  let transitions := missionTransitions facts
  let warnings := warnings facts arms
  .ok
    { engineIdentity := engineIdentity
      experimentId := facts.experimentId
      benchmarkDesignation := facts.benchmarkDesignation
      pairOrder := facts.pairOrder
      declaredSamplePairs := facts.declaredSamplePairs
      completedSamplePairs := facts.completedPairs
      arms := arms
      demandDeltaByCurrency := demandDelta arms
      missionTransitions := transitions
      warnings := warnings
      conclusion := conclusion facts arms transitions warnings }

end AgentRank.Diagnostics.Experiment
