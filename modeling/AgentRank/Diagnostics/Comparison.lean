import AgentRank.Diagnostics.Conclusion
import AgentRank.Relational.Ordering

/-!
# One run read against an earlier one

This module models `diagnostics/comparison.py`: the counts, the rates, the demand and the
interactions of two runs before and after, the missions that ended elsewhere, the caveats, and
the conclusion that is drawn from some of these figures.
-/

namespace AgentRank.Diagnostics.Comparison

open Benchmark Diagnostics Relational Store

/-- What a comparison may read of one run.  A run has one outcome for each of its missions, and
its demand has one entry for each currency. -/
structure RunFacts where
  runId : Uuid
  status : BenchmarkRunStatus
  suiteLabel : String
  suiteDefinitionHash : Option String
  environmentLabel : Option String
  catalogHash : Option String
  evaluatorVersion : Option String
  executorLabel : Option String
  executorRevision : Option String
  buyerConfigurationDigest : Option String
  representationId : Option Uuid
  resolvedModels : List String
  metrics : BenchmarkMetrics
  missionsWithProviderErrors : Nat
  terminatedProviderOutages : Nat
  modelInvocations : Option Nat
  toolCalls : Option Nat
  tokenUsageReported : Option Bool
  outcomes : List MissionOutcomeFact
  startedAt : Option Instant
  completedAt : Option Instant
  eachMissionOnce : (outcomes.map MissionOutcomeFact.missionKey).Nodup
  eachCurrencyOnce : (metrics.simulatedDemand.map SimulatedDemand.currency).Nodup
deriving DecidableEq

namespace RunFacts

def isComplete (facts : RunFacts) : Bool :=
  facts.status = .completed

/-- The run's duration, where it both started and ended.  Instants count microseconds. -/
def durationSeconds (facts : RunFacts) : Option ℚ :=
  match facts.startedAt, facts.completedAt with
  | some started, some completed => some ((completed - started : Int) / 1000000)
  | _, _ => none

end RunFacts

structure CountChange where
  key : String
  before : Nat
  after : Nat
deriving DecidableEq

def CountChange.delta (change : CountChange) : Int :=
  change.after - change.before

structure RateChange where
  key : String
  before : Option ℚ
  after : Option ℚ
deriving DecidableEq

def RateChange.delta (change : RateChange) : Option ℚ :=
  match change.before, change.after with
  | some before, some after => some (after - before)
  | _, _ => none

structure SimulatedDemandChange where
  currency : String
  bucket : SimulatedDemandBucket
  beforeAmountMinor : Int
  afterAmountMinor : Int
deriving DecidableEq

def SimulatedDemandChange.deltaAmountMinor (change : SimulatedDemandChange) : Int :=
  change.afterAmountMinor - change.beforeAmountMinor

inductive Direction
  | improved
  | regressed
  | changed
deriving DecidableEq

structure MissionTransition where
  missionKey : String
  beforeStatus : Option MissionRunStatus
  beforePrimaryFailureReason : Option FailureReason
  afterStatus : Option MissionRunStatus
  afterPrimaryFailureReason : Option FailureReason
  direction : Direction
deriving DecidableEq

structure InteractionChange where
  modelInvocations : Option CountChange
  toolCalls : Option CountChange
  baselineTraced : Bool
  candidateTraced : Bool
  tokenUsageComplete : Option Bool
deriving DecidableEq

structure RunComparison where
  engineIdentity : String
  baselineRunId : Uuid
  candidateRunId : Uuid
  comparable : Bool
  counts : List CountChange
  rates : List RateChange
  simulatedDemand : List SimulatedDemandChange
  transitions : List MissionTransition
  interactions : InteractionChange
  runtimeSeconds : Option ℚ × Option ℚ
  warnings : List MethodologyWarning
  conclusion : ComparisonConclusion
deriving DecidableEq

/-! ## Tables -/

/-- `_COUNT_FIELDS`, with what each one reads of the metrics. -/
def countFields : List (String × (BenchmarkMetrics → Nat)) :=
  [("missions_total", BenchmarkMetrics.missionsTotal),
    ("missions_succeeded", BenchmarkMetrics.missionsSucceeded),
    ("missions_failed", BenchmarkMetrics.missionsFailed),
    ("missions_abstained", BenchmarkMetrics.missionsAbstained),
    ("missions_errored", BenchmarkMetrics.missionsErrored),
    ("missions_unfinished", BenchmarkMetrics.missionsUnfinished),
    ("purchase_missions", BenchmarkMetrics.purchaseMissions),
    ("control_missions", BenchmarkMetrics.controlMissions),
    ("correct_abstentions", BenchmarkMetrics.correctAbstentions),
    ("incorrect_abstentions", BenchmarkMetrics.incorrectAbstentions),
    ("unsafe_attempts", BenchmarkMetrics.unsafeAttempts),
    ("unverified_attempts", BenchmarkMetrics.unverifiedAttempts),
    ("unsafe_completions", BenchmarkMetrics.unsafeCompletions),
    ("oracle_disagreements", BenchmarkMetrics.oracleDisagreements)]

/-- The counts of a run that a comparison publishes. -/
def publishedCounts : List (String × (RunFacts → Nat)) :=
  (countFields.map fun field => (field.1, fun facts : RunFacts => field.2 facts.metrics)) ++
    [("provider_failure_missions", RunFacts.missionsWithProviderErrors)]

/-- `_counts`. -/
def counts (baseline candidate : RunFacts) : List CountChange :=
  publishedCounts.map fun field => ⟨field.1, field.2 baseline, field.2 candidate⟩

/-- `_rates`. -/
def rates (baseline candidate : RunFacts) : List RateChange :=
  [⟨"task_completion_rate", baseline.metrics.taskCompletionRate,
      candidate.metrics.taskCompletionRate⟩,
    ⟨"correct_abstention_rate", baseline.metrics.correctAbstentionRate,
      candidate.metrics.correctAbstentionRate⟩]

def demandBuckets : List SimulatedDemandBucket :=
  [.potential, .captured, .lost, .notMeasured]

/-- An amount of `_demand_by_currency`, zero where the currency or the bucket is missing. -/
def demandAmount (facts : RunFacts) (currency : String) (bucket : SimulatedDemandBucket) : Int :=
  bucket.amountIn facts.metrics.simulatedDemand currency

def RunFacts.currencies (facts : RunFacts) : List String :=
  facts.metrics.simulatedDemand.map SimulatedDemand.currency

/-- `sorted(set(before) | set(after))`. -/
def comparedCurrencies (baseline candidate : RunFacts) : List String :=
  (KeyOrder.natural String).sortBy id (baseline.currencies ++ candidate.currencies).dedup

/-- `_demand`. -/
def demand (baseline candidate : RunFacts) : List SimulatedDemandChange :=
  (comparedCurrencies baseline candidate).flatMap fun currency =>
    demandBuckets.map fun bucket =>
      ⟨currency, bucket, demandAmount baseline currency bucket,
        demandAmount candidate currency bucket⟩

/-- `_direction`. -/
def direction (before after : Option MissionOutcomeFact) : Direction :=
  match before, after with
  | some first, some second =>
      if first.status ≠ .succeeded ∧ second.status = .succeeded then .improved
      else if first.status = .succeeded ∧ second.status ≠ .succeeded then .regressed
      else .changed
  | _, _ => .changed

/-- One mission of `_transitions`, where it ended somewhere else. -/
def transitionOf (baseline candidate : RunFacts) (key : String) : Option MissionTransition :=
  let first := MissionOutcomeFact.lookup baseline.outcomes key
  let second := MissionOutcomeFact.lookup candidate.outcomes key
  if first.isSome ∧ second.isSome ∧
      first.map MissionOutcomeFact.position = second.map MissionOutcomeFact.position then none
  else
    some
      { missionKey := key
        beforeStatus := first.map MissionOutcomeFact.status
        beforePrimaryFailureReason := first.bind MissionOutcomeFact.primaryFailureReason
        afterStatus := second.map MissionOutcomeFact.status
        afterPrimaryFailureReason := second.bind MissionOutcomeFact.primaryFailureReason
        direction := direction first second }

def RunFacts.missionKeys (facts : RunFacts) : List String :=
  facts.outcomes.map MissionOutcomeFact.missionKey

/-- The missions of either run: those of the candidate first, in their order. -/
def comparedMissions (baseline candidate : RunFacts) : List String :=
  candidate.missionKeys ++ baseline.missionKeys.filter fun key => key ∉ candidate.missionKeys

/-- `_transitions`. -/
def transitions (baseline candidate : RunFacts) : List MissionTransition :=
  (comparedMissions baseline candidate).filterMap (transitionOf baseline candidate)

/-- `_count_change`. -/
def countChange (key : String) (before after : Option Nat) : Option CountChange :=
  match before, after with
  | some before, some after => some ⟨key, before, after⟩
  | _, _ => none

/-- `_token_usage`. -/
def tokenUsage (baseline candidate : RunFacts) : Option Bool :=
  match baseline.tokenUsageReported, candidate.tokenUsageReported with
  | some before, some after => some (before && after)
  | _, _ => none

/-- `_interactions`. -/
def interactions (baseline candidate : RunFacts) : InteractionChange where
  modelInvocations :=
    countChange "model_invocations" baseline.modelInvocations candidate.modelInvocations
  toolCalls := countChange "tool_calls" baseline.toolCalls candidate.toolCalls
  baselineTraced := baseline.modelInvocations.isSome
  candidateTraced := candidate.modelInvocations.isSome
  tokenUsageComplete := tokenUsage baseline candidate

/-- `_NOT_COMPARABLE_CODES`. -/
def notComparableCodes : List WarningCode :=
  [.suiteDiffers, .environmentDiffers, .catalogPinDiffers, .evaluatorDiffers, .executorDiffers,
    .runNotCompleted, .representationDeliveryDiffers]

/-- The branch of `_warnings` about the buyer. -/
def executorWarnings (baseline candidate : RunFacts) : List MethodologyWarning :=
  if baseline.executorLabel ≠ candidate.executorLabel then
    [⟨.executorDiffers,
      "A different buyer did the shopping in each run, so a difference between" ++
        " them may be the buyer rather than anything about your merchant."⟩]
  else
    warnIf (baseline.executorRevision ≠ candidate.executorRevision) .executorRevisionDiffers
      ("The buyer's code changed between these runs. The declared version is the" ++
        " same, so whether its behaviour changed is not established either way.")

/-- `_warnings`. -/
def warnings (baseline candidate : RunFacts) : List MethodologyWarning :=
  let outages := baseline.terminatedProviderOutages + candidate.terminatedProviderOutages
  warnIf (!baseline.isComplete || !candidate.isComplete) .runNotCompleted
      ("At least one of these runs did not complete every mission, so its counts" ++
        " describe part of a workload rather than the whole of one.") ++
    warnIf (baseline.suiteLabel ≠ candidate.suiteLabel ||
        baseline.suiteDefinitionHash ≠ candidate.suiteDefinitionHash) .suiteDiffers
      ("These runs executed different benchmark workloads, so their numbers are not" ++
        " measurements of the same thing.") ++
    warnIf (baseline.environmentLabel ≠ candidate.environmentLabel) .environmentDiffers
      ("These runs were prepared against different benchmark worlds, so the shelf" ++
        " each was measured on was not the same.") ++
    warnIf (baseline.evaluatorVersion ≠ candidate.evaluatorVersion) .evaluatorDiffers
      ("These runs were marked with different evaluator rules, so their outcomes" ++
        " were decided differently.") ++
    warnIf (baseline.catalogHash ≠ candidate.catalogHash) .catalogPinDiffers
      ("Your authoritative catalog was not identical at the start of both runs, so" ++
        " these two runs were measured against different merchant data and a" ++
        " difference between them is not a reading about anything you published.") ++
    executorWarnings baseline candidate ++
    warnIf (baseline.buyerConfigurationDigest ≠ candidate.buyerConfigurationDigest)
      .buyerConfigurationDiffers
      ("The buyer's frozen configuration was not the same in both runs, so prompt," ++
        " tool or limit changes are mixed into any difference.") ++
    warnIf (baseline.representationId.isNone != candidate.representationId.isNone)
      .representationDeliveryDiffers
      ("Only one of these runs was measured against a published agent-ready" ++
        " representation, so the two buyers were not shown the same kind of surface." ++
        " Reading a difference between those two arms is what a controlled paired" ++
        " experiment is for, so no before and after reading is offered here.") ++
    warnIf (baseline.representationId.isSome &&
        baseline.representationId = candidate.representationId) .representationUnchanged
      ("Both runs were measured against the same published representation, so any" ++
        " difference between them is variation between two executions rather than" ++
        " anything about the artifact.") ++
    warnIf (baseline.resolvedModels ≠ candidate.resolvedModels) .resolvedModelMismatch
      ("The runs were answered by different sets of resolved models, so outcome" ++
        " differences may be model behaviour rather than anything you changed.") ++
    warnIf (outages ≠ 0) .providerFailuresPresent
      (s!"{outages} mission(s) across these runs ended on a model provider outage." ++
        " Their outcomes reflect provider availability as much as your merchant.") ++
    warnIf (baseline.tokenUsageReported = some false ||
        candidate.tokenUsageReported = some false) .tokenUsageUnavailable
      ("Some provider invocations reported no token usage, so interaction cost is" ++
        " compared through round trip and tool call counts only.") ++
    [⟨.smallSample,
      "One run on each side. A single pair cannot separate a real change from" ++
        " ordinary variation between two executions."⟩,
    ⟨.notAControlledExperiment,
      "This is a before and after over time, not a controlled experiment. Anything" ++
        " that changed between the two runs is mixed into the difference, so read these" ++
        " numbers as an observation rather than as an effect of your representation."⟩]

/-- `_SAFETY_COUNTS`. -/
def safetyCounts : List String :=
  ["unsafe_attempts", "unverified_attempts", "unsafe_completions"]

/-- How a count that moved is described. -/
def CountChange.text (change : CountChange) : String :=
  s!"{change.key} {change.before} to {change.after}"

/-- How an amount that moved is described. -/
def SimulatedDemandChange.text (change : SimulatedDemandChange) : String :=
  s!"{change.currency} {change.beforeAmountMinor} to {change.afterAmountMinor}"

/-- Some figures of one kind, where there are any. -/
def described (opening : String) (figures : List String) : List String :=
  if figures.isEmpty then [] else [opening ++ ", ".intercalate figures ++ ")"]

/-- How missions that ended elsewhere are described. -/
def missionsText (moved : List MissionTransition) : String :=
  s!"{moved.length} mission(s) ended differently"

/-- The missions of `_difference_descriptions`. -/
def describedMissions (moved : List MissionTransition) : List String :=
  let improved := moved.countP fun entry => entry.direction = .improved
  let regressed := moved.countP fun entry => entry.direction = .regressed
  if moved.isEmpty then []
  else
    [missionsText moved ++
      s!" ({improved} newly completed, {regressed} no longer completed)"]

/-- `_difference_descriptions`. -/
def differenceDescriptions (counts : List CountChange) (demand : List SimulatedDemandChange)
    (transitions : List MissionTransition) : List String :=
  let moved := counts.filter fun change => change.delta ≠ 0
  let safety := safetyCounts.filterMap fun name =>
    (moved.find? fun change => change.key = name).map CountChange.text
  let captured := (demand.filter fun change =>
    change.bucket = .captured ∧ change.deltaAmountMinor ≠ 0).map SimulatedDemandChange.text
  let remaining := (moved.filter fun change => change.key ∉ safetyCounts).map CountChange.text
  describedMissions transitions ++
    described "safety counts changed (" safety ++
    described "captured simulated demand changed (" captured ++
    described "other counts changed (" ((KeyOrder.natural String).sortBy id remaining)

/-- `_conclusion`. -/
def conclusion (counts : List CountChange) (rates : List RateChange)
    (demand : List SimulatedDemandChange) (transitions : List MissionTransition)
    (fatal : Bool) : ComparisonConclusion :=
  let differences := differenceDescriptions counts demand transitions
  if fatal then
    { kind := .incomplete
      statement :=
        "These two runs did not measure the same thing, so no before and after reading" ++
          " is offered." }
  else if differences.isEmpty ∧ ∀ rate ∈ rates, rate.before = rate.after then
    { kind := .parity
      statement :=
        "Every mission ended in the same place and every count and rate this comparison" ++
          " publishes is identical. Nothing measurable changed between these two runs," ++
          " which is not evidence that the representation cannot help." }
  else
    { kind := .outcomeDifferences
      statement := "Between these two runs, " ++ "; ".intercalate differences ++ "." }

/-- `compare_runs`. -/
def compareRuns (baseline candidate : RunFacts) (engineIdentity : String) : RunComparison :=
  let warnings := warnings baseline candidate
  let fatal := warnings.any fun warning => warning.code ∈ notComparableCodes
  let transitions := transitions baseline candidate
  let counts := counts baseline candidate
  let rates := rates baseline candidate
  let demand := demand baseline candidate
  { engineIdentity := engineIdentity
    baselineRunId := baseline.runId
    candidateRunId := candidate.runId
    comparable := !fatal
    counts := counts
    rates := rates
    simulatedDemand := demand
    transitions := transitions
    interactions := interactions baseline candidate
    runtimeSeconds := (baseline.durationSeconds, candidate.durationSeconds)
    warnings := warnings
    conclusion := conclusion counts rates demand transitions fatal }

end AgentRank.Diagnostics.Comparison
