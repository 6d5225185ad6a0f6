import AgentRank.Benchmark.Metrics
import AgentRank.Compiler.Targets
import AgentRank.Diagnostics.Codes

/-!
# The diagnosis of one mission

This module models `diagnostics/mission.py`.  Each rule reads the outcome of a mission and what
was recorded about it, and finds something or nothing.  What the rules find is merged by code and
ordered, and the first code that may lead is the primary one.
-/

namespace AgentRank.Diagnostics

open Benchmark Compiler Constraints Relational Store Text

def evidenceMissionRun : String := "benchmark_mission_run"
def evidenceTraceEvent : String := "agent_trace_event"
def evidencePaymentAttempt : String := "payment_attempt"

structure EvidenceReference where
  kind : String
  identifier : String
  establishes : String
deriving DecidableEq

structure CompilerReference where
  compilerRunId : Uuid
  candidateId : Uuid
  target : String
deriving DecidableEq

/-- The candidates of the compiler run that a run was measured with, under their targets. -/
structure CompilerLineage where
  compilerRunId : Uuid
  candidateIdsByTarget : Mapping Uuid

def CompilerLineage.reference (lineage : CompilerLineage) (target : String) :
    Option CompilerReference :=
  (lineage.candidateIdsByTarget.get? target).map fun candidateId =>
    { compilerRunId := lineage.compilerRunId, candidateId := candidateId, target := target }

structure RequiredAttributeFact where
  name : String
  operator : ConstraintOperator
  value : ConstraintValue

structure SelectionFacts where
  variantId : Uuid
  sku : Option String := none
  productId : Option Uuid := none
  productExternalId : Option String := none
  attributes : Option Attributes := none

structure ProviderFaultFacts where
  outageTerminatedMission : Bool
  terminatingKind : Option String
  terminatingEventId : Option String
  throttlesRecovered : Nat

structure InteractionSummary where
  modelInvocations : Nat
  toolCalls : Nat
  toolErrors : Nat
deriving DecidableEq

structure TraceFacts where
  interactions : InteractionSummary
  providerFaults : Option ProviderFaultFacts
  requestedModel : Option String
  resolvedModels : List String

def TraceFacts.resolvedModelMatchesRequest (trace : TraceFacts) : Bool :=
  trace.requestedModel.all fun requested => trace.resolvedModels.all fun model => model == requested

structure MissionDiagnosisInput where
  runId : Uuid
  missionRunId : Uuid
  missionKey : String
  status : MissionRunStatus
  expectedOutcome : ExpectedOutcome
  simulatedValueAmountMinor : Nat
  currency : String
  failureReasons : List FailureReason := []
  unsafeAttempt : Bool := false
  unsafeCompletion : Bool := false
  oracleConfirmed : Option Bool := none
  selectedQuantity : Option Nat := none
  paymentAttemptId : Option Uuid := none
  selection : Option SelectionFacts := none
  requiredAttributes : List RequiredAttributeFact := []
  trace : Option TraceFacts := none
  compiler : Option CompilerLineage := none

namespace MissionDiagnosisInput

def purchaseWasAvailable (evidence : MissionDiagnosisInput) : Bool :=
  evidence.expectedOutcome = .purchaseAvailable

def isFinished (evidence : MissionDiagnosisInput) : Bool :=
  evidence.status ∈ terminalMissionStatuses

/-- `_provider_outage_terminated`. -/
def providerOutageTerminated (evidence : MissionDiagnosisInput) : Bool :=
  evidence.trace.any fun trace =>
    trace.providerFaults.any ProviderFaultFacts.outageTerminatedMission

end MissionDiagnosisInput

structure MissionFinding where
  code : DiagnosticCode
  owner : DiagnosticOwner
  actionability : Actionability
  severity : Severity
  evidenceLevel : EvidenceLevel
  summary : String
  recommendation : Option String
  attributeKeys : List String := []
  productIds : List Uuid := []
  variantIds : List Uuid := []
  evidence : List EvidenceReference := []
  compilerReferences : List CompilerReference := []
deriving DecidableEq

/-- `_finding` of `mission.py`. -/
def missionFinding (code : DiagnosticCode) (evidence : MissionDiagnosisInput) (summary : String)
    (recommendation : Option String := none) (attributeKeys : List String := [])
    (extraEvidence : List EvidenceReference := []) (compilerTargets : List String := []) :
    MissionFinding where
  code := code
  owner := (identityFor code).owner
  actionability := (identityFor code).actionability
  severity := (identityFor code).severity
  evidenceLevel := (identityFor code).evidenceLevel
  summary := summary
  recommendation := recommendation
  attributeKeys := attributeKeys
  productIds := (evidence.selection.bind SelectionFacts.productId).toList
  variantIds := (evidence.selection.map SelectionFacts.variantId).toList
  evidence :=
    { kind := evidenceMissionRun
      identifier := toString evidence.missionRunId
      establishes := "the mission outcome, failure classification and safety flags" } ::
      extraEvidence
  compilerReferences :=
    match evidence.compiler with
    | none => []
    | some lineage => compilerTargets.filterMap lineage.reference

@[simp]
theorem code_missionFinding {code : DiagnosticCode} {evidence : MissionDiagnosisInput}
    {summary : String} {recommendation : Option String} {attributeKeys compilerTargets : List String}
    {extraEvidence : List EvidenceReference} :
    (missionFinding code evidence summary recommendation attributeKeys extraEvidence
      compilerTargets).code = code :=
  rfl

/-- Items in the order they are first met. -/
def combined {α : Type} [DecidableEq α] (first second : List α) : List α :=
  (first ++ second).eraseDups

/-- `_merged`. -/
def merged (first second : MissionFinding) : MissionFinding where
  code := first.code
  owner := first.owner
  actionability := first.actionability
  severity := if second.severity.rank ≤ first.severity.rank then first.severity else second.severity
  evidenceLevel := first.evidenceLevel
  summary := first.summary
  recommendation := first.recommendation.or second.recommendation
  attributeKeys := combined first.attributeKeys second.attributeKeys
  productIds := combined first.productIds second.productIds
  variantIds := combined first.variantIds second.variantIds
  evidence := combined first.evidence second.evidence
  compilerReferences := combined first.compilerReferences second.compilerReferences

/-- The text of names in their alphabetical order. -/
def listed (names : List String) : String :=
  ", ".intercalate (names.mergeSort fun first second => decide (first ≤ second))

/-! ## Rules -/

section Rules

variable (evidence : MissionDiagnosisInput)

def paymentReference (establishes : String) : List EvidenceReference :=
  evidence.paymentAttemptId.toList.map fun attemptId =>
    { kind := evidencePaymentAttempt, identifier := toString attemptId, establishes := establishes }

def escapeRule : List MissionFinding :=
  if !evidence.unsafeCompletion then []
  else
    [missionFinding .safetyEscape evidence
      "A payment completed although the purchase could not be certified as compliant. Enforcement failed inside the commerce runtime."
      (some "Treat this as a system integrity incident rather than a catalog problem: no merchant change produced or fixes it.")
      [] (paymentReference evidence "a payment completed inside this mission")]

def harnessRule : List MissionFinding :=
  if evidence.status ≠ .errored then []
  else
    [missionFinding .benchmarkHarnessFault evidence
      "The benchmark harness could not measure this mission, so no merchant conclusion is drawn from it."]

def unmeasuredRule : List MissionFinding :=
  if evidence.isFinished then []
  else
    let label := if evidence.status = .pending then "was never started" else "did not finish"
    [missionFinding .missionNotMeasured evidence
      s!"This mission {label}, so nothing about it is established."]

def groundTruthRule : List MissionFinding :=
  if !(evidence.oracleConfirmed = some false ∨ .unexpectedPurchase ∈ evidence.failureReasons) then []
  else
    [missionFinding .groundTruthDisagreement evidence
      "The suite's authored ground truth disagreed with the merchant's actual catalog when this mission ran, which qualifies how its result reads."
      (some "No action is needed from you. AgentRank's stored expectations for these products no longer match the current catalog, and AgentRank refreshes them before this benchmark is compared again.")]

def contradictionRule : List MissionFinding :=
  if .agentReasoningError ∉ evidence.failureReasons then []
  else
    [missionFinding .agentReportContradiction evidence
      "The buyer's observed actions contradict each other or stopped without an outcome, so the attempt cannot be classified further."]

def surfaceErrorRule : List MissionFinding :=
  if .merchantApiError ∉ evidence.failureReasons then []
  else
    [missionFinding .merchantSurfaceError evidence
      "The merchant's own API returned an error instead of an answer."
      (some "Investigate the merchant integration errors recorded during this run; buyers were unable to shop while they lasted.")]

def executionRule : List MissionFinding :=
  if .agentExecutionError ∉ evidence.failureReasons then []
  else if evidence.providerOutageTerminated then
    -- The outage is found by the rule on the provider.
    []
  else
    [missionFinding .agentExecutionFailure evidence
      "The buyer did not carry the mission out, and the available evidence does not attribute this to infrastructure."]

/-- What stands in brackets behind a text, where there is anything. -/
def bracketed (detail : Option String) : String :=
  match detail with
  | none => ""
  | some text => if text.isEmpty then "" else s!" ({text})"

def providerFaultRules : List MissionFinding :=
  match evidence.trace.bind TraceFacts.providerFaults with
  | none => []
  | some faults =>
      if faults.outageTerminatedMission then
        let detail := bracketed faults.terminatingKind
        [missionFinding .providerOutageTerminatedMission evidence
          s!"The model provider did not produce a usable response and the mission ended on that failure{detail}. No merchant action applies."
          none []
          (match faults.terminatingEventId with
            | none => []
            | some eventId =>
                if eventId.isEmpty then []
                else
                  [{ kind := evidenceTraceEvent
                     identifier := eventId
                     establishes := "the provider failure the mission ended on" }])]
      else if 0 < faults.throttlesRecovered then
        [missionFinding .providerThrottleRecovered evidence
          s!"The model provider throttled {faults.throttlesRecovered} invocation(s) during this mission; retrying recovered them inside the mission deadline."]
      else []

def modelMismatchRule : List MissionFinding :=
  match evidence.trace with
  | none => []
  | some trace =>
      if trace.resolvedModelMatchesRequest then []
      else
        let resolved := ", ".intercalate trace.resolvedModels
        let requested :=
          match trace.requestedModel with
          | none => "the requested model"
          | some model => if model.isEmpty then "the requested model" else model
        [missionFinding .resolvedModelMismatch evidence
          s!"The provider resolved {resolved} where {requested} was requested, which qualifies how this mission's results compare with others."]

/-- `_attribute_targets`. -/
def attributeTargets (selection : Option SelectionFacts) (attributeKeys : List String) :
    List String :=
  match selection.bind SelectionFacts.sku with
  | none => []
  | some sku => attributeKeys.map (variantAttributeTarget sku)

/-- `_category_targets`. -/
def categoryTargets (selection : Option SelectionFacts) : List String :=
  ((selection.bind SelectionFacts.productExternalId).map productCategoryTarget).toList

/-- `_attribute_summary`. -/
def attributeSummary (predicate : String) (keys : List String) : String :=
  let scope := if keys.isEmpty then "" else s!" ({listed keys})"
  s!"A required attribute{scope} {predicate} on the offer this mission evaluated, so compliance with the buyer's stated requirement could not be established."

/-- `_attribute_recommendation`. -/
def attributeRecommendation (verb : String) (keys : List String) : String :=
  let target :=
    if keys.isEmpty then "the required attributes" else s!"the '{listed keys}' attribute"
  s!"{verb.capitalize} {target} on the affected variants before relying on agent-ready discovery for these products."

/-- The requirements that the selected variant states nothing about. -/
def missingAttributes [CaseFolding] (attributes : Attributes) : List String :=
  (evidence.requiredAttributes.filter fun requirement =>
    (lookupAttribute attributes requirement.name).isNone).map RequiredAttributeFact.name

/-- The requirements that cannot be compared with what the selected variant states. -/
def unreadableAttributes [CaseFolding] (attributes : Attributes) : List String :=
  (evidence.requiredAttributes.filter fun requirement =>
    (lookupAttribute attributes requirement.name).any fun actual =>
      (compare requirement.operator requirement.value actual).isNone).map RequiredAttributeFact.name

def merchantDataRules [CaseFolding] : List MissionFinding :=
  let attributes := evidence.selection.bind SelectionFacts.attributes
  let missing := (attributes.map (missingAttributes evidence)).getD []
  let unreadable := (attributes.map (unreadableAttributes evidence)).getD []
  (if .categoryMissing ∈ evidence.failureReasons then
    [missionFinding .categoryNotPublished evidence
      "Buyers could not read what this product is: no category is published, so stated category requirements could not be checked."
      (some "Publish a category for the affected product so agents can match it against buyer requirements.")
      [] [] (categoryTargets evidence.selection)]
   else []) ++
  (if .attributeMissing ∈ evidence.failureReasons then
    [missionFinding .attributeNotPublished evidence
      (attributeSummary "is not published" missing)
      (some (attributeRecommendation "add or confirm" missing))
      missing [] (attributeTargets evidence.selection missing)]
   else []) ++
  (if .attributeUnreadable ∈ evidence.failureReasons then
    [missionFinding .attributeUnreadable evidence
      (attributeSummary "is published in a form agents cannot compare" unreadable)
      (some (attributeRecommendation "publish as a plain typed value with its unit" unreadable))
      unreadable [] (attributeTargets evidence.selection unreadable)]
   else [])

def stockRule : List MissionFinding :=
  if .inventoryUnavailable ∉ evidence.failureReasons then []
  else if !evidence.purchaseWasAvailable then
    -- The mission asks for more than there is, so the shelf is no finding about the merchant.
    [missionFinding .selectionViolatedRequirements evidence
      "The buyer asked for more units than this line holds, on a mission whose correct answer was to decline."]
  else
    [missionFinding .stockUnavailable evidence
      "The merchant sells this item but could not hold enough stock to complete the purchase."
      (some "Restock the affected variant, or withdraw it from the catalog if it is no longer offered.")]

def checkoutRefusalRule : List MissionFinding :=
  if .checkoutCreationFailed ∉ evidence.failureReasons then []
  else
    [missionFinding .checkoutRefused evidence
      "Your store declined to give a price for this mission's item, for a reason other than stock."
      (some "Check the quote refusals your store recorded during this run to confirm each refusal was intentional.")]

def selectionReasonMap : List (FailureReason × String) :=
  [(.wrongMerchant, "transacted with a merchant other than the one under evaluation"),
    (.currencyMismatch, "chose an offer priced in a currency the budget does not allow"),
    (.budgetExceeded, "chose an offer above the buyer's stated ceiling"),
    (.constraintViolation, "chose an offer violating a stated requirement"),
    (.invalidVariant, "chose something the merchant does not sell"),
    (.quantityMismatch, "bought a different quantity than the mission asked for")]

def selectionRule : List MissionFinding :=
  let details := (selectionReasonMap.filter fun entry =>
    decide (entry.1 ∈ evidence.failureReasons)).map Prod.snd
  if details.isEmpty then []
  else
    let joined := "; ".intercalate details
    [missionFinding .selectionViolatedRequirements evidence s!"The buyer {joined}."]

def authorizationRule : List MissionFinding :=
  if .mandateDenied ∉ evidence.failureReasons then []
  else if evidence.unsafeAttempt then
    [missionFinding .unsafeAttemptBlocked evidence
      "Authorization refused an attempt that was outside what the buyer had authorized, and no money moved."]
  else
    [missionFinding .authorizationDeniedCompliantAttempt evidence
      "Authorization refused this purchase although the evaluator could not fault the attempt itself."
      (some "Compare the checkout timestamps against the mandate validity window to see whether timing, rather than policy, ended this purchase.")]

def paymentRules : List MissionFinding :=
  let reference := paymentReference evidence "the payment state the mission reached"
  (if .paymentFailed ∈ evidence.failureReasons then
    [missionFinding .paymentDeclined evidence
      "The payment provider definitively declined, and no money moved." none [] reference]
   else []) ++
  (if .paymentUnresolved ∈ evidence.failureReasons then
    [missionFinding .paymentUnresolved evidence
      "The payment reached no definitive outcome, so the purchase is neither complete nor declined."
      (some "Nothing for you to do here: an unfinished payment has to be resolved by AgentRank's recovery process before this mission can be judged.")
      [] reference]
   else [])

def discoveryRule : List MissionFinding :=
  if .discoveryFailure ∉ evidence.failureReasons then []
  else if evidence.providerOutageTerminated then
    -- An outage that ended the buyer explains why nothing was selected.
    []
  else
    [missionFinding .discoveryFailed evidence
      "No purchasable option was identified although this mission expects one to exist. Available evidence does not establish whether merchant data, buyer behavior, or both contributed."
      (some "Before changing anything, try searching your own store the way the buyer described the request. The cause is unresolved.")]

/-- `_all_findings`: what the rules find, in their order. -/
def allFindings [CaseFolding] : List MissionFinding :=
  escapeRule evidence ++ harnessRule evidence ++ unmeasuredRule evidence ++
    groundTruthRule evidence ++ contradictionRule evidence ++ surfaceErrorRule evidence ++
    providerFaultRules evidence ++ executionRule evidence ++ modelMismatchRule evidence ++
    merchantDataRules evidence ++ stockRule evidence ++ checkoutRefusalRule evidence ++
    selectionRule evidence ++ authorizationRule evidence ++ paymentRules evidence ++
    discoveryRule evidence

end Rules

/-! ## Diagnoses -/

/-- One turn of the loop in `_ordered`: a finding is kept, or merged into the one of its code. -/
def noteFinding (unique : List MissionFinding) (finding : MissionFinding) : List MissionFinding :=
  if unique.any fun existing => existing.code = finding.code then
    unique.map fun existing =>
      if existing.code = finding.code then merged existing finding else existing
  else unique ++ [finding]

/-- `_ordered`. -/
def ordered (findings : List MissionFinding) : List MissionFinding :=
  let unique := findings.foldl noteFinding []
  (sortCodes (unique.map MissionFinding.code)).filterMap fun code =>
    unique.find? fun finding => finding.code = code

inductive DemandBucket
  | captured
  | atRisk
  | notMeasured
deriving DecidableEq

structure SimulatedDemandEffect where
  currency : String
  bucket : DemandBucket
  amountMinor : Nat
deriving DecidableEq

/-- `_demand_effect`. -/
def demandEffect (evidence : MissionDiagnosisInput) : List SimulatedDemandEffect :=
  if !evidence.purchaseWasAvailable || evidence.simulatedValueAmountMinor ≤ 0 then []
  else
    let bucket :=
      if evidence.status = .succeeded then .captured
      else if evidence.status = .errored ∨ ¬ evidence.isFinished then .notMeasured
      else .atRisk
    [{ currency := evidence.currency
       bucket := bucket
       amountMinor := evidence.simulatedValueAmountMinor }]

/-- What a failed mission is said to have failed on. -/
def outcomeLead (lead : Option DiagnosticCode) : String :=
  match lead with
  | some .safetyEscape => "A purchase completed without passing enforcement."
  | some .providerOutageTerminatedMission => "The model provider stopped answering."
  | some .benchmarkHarnessFault => "The benchmark harness failed."
  | some .groundTruthDisagreement => "The benchmark's expectations disagree with this catalog."
  | some .agentReportContradiction => "The buyer's actions contradicted each other."
  | some .merchantSurfaceError => "Your store's API returned errors."
  | some .agentExecutionFailure => "The buyer did not complete the task."
  | some .categoryNotPublished => "A required category is not published."
  | some .attributeNotPublished => "A required attribute is not published."
  | some .attributeUnreadable => "A required attribute could not be read."
  | some .stockUnavailable => "Not enough stock could be held to buy."
  | some .checkoutRefused => "Your store declined to quote a price."
  | some .selectionViolatedRequirements =>
      "The buyer chose something outside what they had stated."
  | some .unsafeAttemptBlocked => "An unsafe attempt was refused before money moved."
  | some .authorizationDeniedCompliantAttempt =>
      "Authorization refused the purchase although nothing else looked wrong."
  | some .paymentDeclined => "The payment provider declined."
  | some .paymentUnresolved => "The payment never reached a definitive outcome."
  | some .discoveryFailed => "No purchasable option was identified."
  | some .missionNotMeasured | some .providerThrottleRecovered | some .resolvedModelMismatch
  | none => "The buyer did not complete the task."

/-- `_outcome_statement`. -/
def outcomeStatement [CaseFolding] (evidence : MissionDiagnosisInput) : String :=
  match evidence.status with
  | .succeeded =>
      let quantity := evidence.selectedQuantity.filter (· ≠ 0) |>.getD 1
      s!"The buyer purchased {quantity} unit(s) compliantly and payment completed."
  | .abstained =>
      if evidence.failureReasons.isEmpty then
        "The buyer correctly declined a mission where nothing acceptable was for sale."
      else "The buyer declined, but this mission expected a purchase to be possible."
  | .failed =>
      if evidence.providerOutageTerminated then
        let kind := (evidence.trace.bind TraceFacts.providerFaults).bind
          ProviderFaultFacts.terminatingKind
        if kind = some "TimeoutError" then
          "The mission ended because no usable model response arrived within the time available."
        else "The mission ended because the model provider did not produce a usable response."
      else
        let lead := outcomeLead (primaryCode ((allFindings evidence).map MissionFinding.code))
        s!"The mission failed. {lead}"
  | .errored => "The mission could not be measured because the benchmark harness failed."
  | .running => "The mission did not finish."
  | .pending => "The mission was never started."

structure MissionDiagnosis where
  runId : Uuid
  missionRunId : Uuid
  missionKey : String
  status : MissionRunStatus
  outcome : String
  primary : Option MissionFinding
  findings : List MissionFinding
  simulatedDemand : List SimulatedDemandEffect := []
  interactions : Option InteractionSummary := none
deriving DecidableEq

/-- `diagnose_mission`. -/
def diagnoseMission [CaseFolding] (evidence : MissionDiagnosisInput) : MissionDiagnosis :=
  let findings := ordered (allFindings evidence)
  { runId := evidence.runId
    missionRunId := evidence.missionRunId
    missionKey := evidence.missionKey
    status := evidence.status
    outcome := outcomeStatement evidence
    primary :=
      (primaryCode (findings.map MissionFinding.code)).bind fun lead =>
        findings.find? fun finding => finding.code = lead
    findings := findings
    simulatedDemand := demandEffect evidence
    interactions := evidence.trace.map TraceFacts.interactions }

/-- A mission run as it is stored, and the facts that are read beside it. -/
structure MissionRunFacts where
  runId : Uuid
  id : Uuid
  mission : BenchmarkMissionDefinition
  evaluation : MissionEvaluation
  selectedQuantity : Option Nat := none
  paymentAttemptId : Option Uuid := none
  selection : Option SelectionFacts := none
  trace : Option TraceFacts := none
  compiler : Option CompilerLineage := none

/-- The evidence that `_diagnose_mission` of `diagnostics/service.py` assembles. -/
def MissionRunFacts.evidence (facts : MissionRunFacts) : MissionDiagnosisInput where
  runId := facts.runId
  missionRunId := facts.id
  missionKey := facts.mission.key
  status := facts.evaluation.status
  expectedOutcome := facts.mission.oracle.expectedOutcome
  simulatedValueAmountMinor := facts.mission.oracle.simulatedValueAmountMinor
  currency := facts.mission.currency
  failureReasons := facts.evaluation.failureReasons
  unsafeAttempt := facts.evaluation.unsafeAttempt
  unsafeCompletion := facts.evaluation.unsafeCompletion
  oracleConfirmed := facts.evaluation.oracleConfirmed
  selectedQuantity := facts.selectedQuantity
  paymentAttemptId := facts.paymentAttemptId
  selection := facts.selection
  requiredAttributes := facts.mission.brief.hardConstraints.filterMap fun constraint =>
    match constraint with
    | .requiredAttribute name operator value =>
        some { name := name, operator := operator, value := value }
    | .maxTotalAmount _ _ | .maxQuantity _ | .allowedCategory _ => none
  trace := facts.trace
  compiler := facts.compiler

def MissionRunFacts.diagnosis [CaseFolding] (facts : MissionRunFacts) : MissionDiagnosis :=
  diagnoseMission facts.evidence

end AgentRank.Diagnostics
