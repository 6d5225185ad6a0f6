import AgentRank.Diagnostics.Mission
import AgentRank.Relational.Grouping

/-!
# Merchant findings

This module models `diagnostics/findings.py`: what the diagnoses of a run add up to.  Findings are
grouped by their code, and by the attributes that they name where the code is about attributes.
What a mission is worth is billed to the group of its primary finding.
-/

namespace AgentRank.Diagnostics

open Constraints Relational Store

structure MerchantFinding where
  key : String
  code : DiagnosticCode
  owner : DiagnosticOwner
  actionability : Actionability
  severity : Severity
  evidenceLevel : EvidenceLevel
  title : String
  recommendation : Option String
  missionRunIds : List Uuid
  missionKeys : List String
  productIds : List Uuid
  variantIds : List Uuid
  attributeKeys : List String
  simulatedDemand : List SimulatedDemandEffect
  compilerReferences : List CompilerReference
deriving DecidableEq

def attributeScopedCodes : List DiagnosticCode :=
  [.attributeNotPublished, .attributeUnreadable]

/-- `_group_key`. -/
def groupKey (finding : MissionFinding) : String :=
  if attributeScopedCodes.contains finding.code && !finding.attributeKeys.isEmpty then
    finding.code.value ++ ":" ++
      ":".intercalate (finding.attributeKeys.mergeSort fun first second => decide (first ≤ second))
  else finding.code.value

/-- The findings of one mission that come first under their key. -/
def firstUnderKeys (seen : List String) : List MissionFinding → List MissionFinding
  | [] => []
  | finding :: rest =>
      if seen.contains (groupKey finding) then firstUnderKeys seen rest
      else finding :: firstUnderKeys (groupKey finding :: seen) rest

/-- `members_by_key` and `diagnoses_by_key`, which are written together. -/
def grouped (diagnoses : List MissionDiagnosis) :
    Grouping String (MissionFinding × MissionDiagnosis) :=
  .of (diagnoses.flatMap fun diagnosis =>
    (firstUnderKeys [] diagnosis.findings).map fun finding =>
      (groupKey finding, finding, diagnosis))

/-- What stands under one key, which is never nothing. -/
structure FindingGroup where
  key : String
  first : MissionFinding × MissionDiagnosis
  rest : List (MissionFinding × MissionDiagnosis)

namespace FindingGroup

def members (group : FindingGroup) : List MissionFinding :=
  (group.first :: group.rest).map Prod.fst

def contributing (group : FindingGroup) : List MissionDiagnosis :=
  (group.first :: group.rest).map Prod.snd

def identity (group : FindingGroup) : DiagnosticIdentity :=
  identityFor group.first.1.code

/-- `order`: severity first, then how many missions, then precedence, then the key. -/
def order (group : FindingGroup) : Int ×ₗ Int ×ₗ Nat ×ₗ String :=
  toLex (-(group.identity.severity.rank : Int), toLex (-(group.contributing.length : Int),
    toLex (precedenceRank group.identity.code, group.key)))

end FindingGroup

def groupsOf (diagnoses : List MissionDiagnosis) : List FindingGroup :=
  (grouped diagnoses).keys.filterMap fun key =>
    match (grouped diagnoses).members key with
    | [] => none
    | first :: rest => some { key := key, first := first, rest := rest }

def baseTitle : DiagnosticCode → String
  | .safetyEscape =>
      "A payment completed although the purchase was not certified as compliant."
  | .providerOutageTerminatedMission =>
      "The AI model provider stopped answering and ended these shopping attempts."
  | .benchmarkHarnessFault =>
      "AgentRank's benchmark machinery could not measure these attempts."
  | .missionNotMeasured => "These shopping attempts never produced an outcome."
  | .groundTruthDisagreement =>
      "The benchmark's stored expectations disagree with your current catalog."
  | .agentReportContradiction => "AI buyers took actions that contradicted each other."
  | .agentExecutionFailure => "AI buyers did not carry out their tasks."
  | .selectionViolatedRequirements =>
      "AI buyers chose offers outside what they themselves had stated."
  | .unsafeAttemptBlocked => "Unsafe attempts were refused before any money moved."
  | .authorizationDeniedCompliantAttempt =>
      "Authorization refused purchases that otherwise looked correct."
  | .merchantSurfaceError =>
      "Your store's API returned errors instead of answers during shopping."
  | .checkoutRefused => "Your store declined to give prices for reasons other than stock."
  | .stockUnavailable =>
      "Buyers could not complete purchases because not enough stock could be held."
  | .categoryNotPublished => "Products are missing the category information buyers filter by."
  | .attributeNotPublished => "Products are missing attribute information buyers require."
  | .attributeUnreadable =>
      "Attributes are published in forms AI buyers cannot compare against requirements."
  | .discoveryFailed =>
      "AI buyers identified nothing to buy although something should have been available."
  | .paymentDeclined => "The payment provider declined these payments."
  | .paymentUnresolved => "Payments never reached a definitive success or decline."
  | .providerThrottleRecovered =>
      "The AI provider briefly limited requests; retries recovered inside the attempt."
  | .resolvedModelMismatch => "The AI provider answered with a different model than requested."

/-- What a key begins with, up to its first colon. -/
def keyHead (key : String) : String :=
  String.ofList (key.toList.takeWhile fun char => char ≠ ':')

/-- `_title`. -/
def title (key : String) (missions : Nat) (attributes : List String) : Except ValueError String :=
  let subject := if missions ≠ 1 then s!"{missions} missions" else "1 mission"
  if !attributes.isEmpty then
    let names := listed attributes
    let verb :=
      if "ATTRIBUTE_NOT_PUBLISHED".isPrefixOf key then "was not published for"
      else "could not be read for"
    .ok s!"Required attribute '{names}' {verb} {subject}."
  else
    let head := keyHead key
    match DiagnosticCode.ofValue? head with
    | none => .error { message := s!"'{head}' is not a valid DiagnosticCode" }
    | some code =>
        let base := baseTitle code
        .ok s!"{base} Observed on {subject}."

/-- A diagnosis leads with the finding that stands under a key. -/
def bills (key : String) (diagnosis : MissionDiagnosis) : Bool :=
  match diagnosis.findings.find? (fun finding => groupKey finding = key), diagnosis.primary with
  | some lead, some primary => primary.code == lead.code
  | _, _ => false

/-- The declared order of the buckets. -/
def DemandBucket.order : DemandBucket → Nat
  | captured => 0
  | atRisk => 1
  | notMeasured => 2

/-- The diagnoses whose demand is added up under a key. -/
def billed (contributing : List MissionDiagnosis) (key : String) : List MissionDiagnosis :=
  contributing.filter (bills key)

/-- What some effects add up to in each currency and bucket, in their order. -/
def totals (effects : List SimulatedDemandEffect) : List SimulatedDemandEffect :=
  let tally := Tally.of effects (fun effect => (effect.currency, effect.bucket))
    SimulatedDemandEffect.amountMinor
  (tally.keys.mergeSort fun first second =>
    decide (toLex (first.1, first.2.order) ≤ toLex (second.1, second.2.order))).map fun pair =>
      { currency := pair.1, bucket := pair.2, amountMinor := tally.amount pair }

/-- `_demand`. -/
def demand (contributing : List MissionDiagnosis) (key : String) : List SimulatedDemandEffect :=
  totals ((billed contributing key).flatMap MissionDiagnosis.simulatedDemand)

/-- `_finding` of `findings.py`. -/
def FindingGroup.finding (group : FindingGroup) : Except ValueError MerchantFinding := do
  let missionRunIds := (group.contributing.map MissionDiagnosis.missionRunId).eraseDups
  let attributeKeys := (group.members.flatMap MissionFinding.attributeKeys).eraseDups
  let title ← title group.key missionRunIds.length attributeKeys
  .ok
    { key := group.key
      code := group.identity.code
      owner := group.identity.owner
      actionability := group.first.1.actionability
      severity := highestSeverity (group.members.map MissionFinding.severity)
      evidenceLevel := group.identity.evidenceLevel
      title := title
      recommendation := group.members.findSome? MissionFinding.recommendation
      missionRunIds := missionRunIds
      missionKeys := (group.contributing.map MissionDiagnosis.missionKey).eraseDups
      productIds := (group.members.flatMap MissionFinding.productIds).eraseDups
      variantIds := (group.members.flatMap MissionFinding.variantIds).eraseDups
      attributeKeys := attributeKeys
      simulatedDemand := demand group.contributing group.key
      compilerReferences :=
        (group.members.flatMap MissionFinding.compilerReferences).eraseDups }

/-- `aggregate_findings`. -/
def aggregateFindings (diagnoses : List MissionDiagnosis) :
    Except ValueError (List MerchantFinding) :=
  ((groupsOf diagnoses).mergeSort fun first second => decide (first.order ≤ second.order)).mapM
    FindingGroup.finding

end AgentRank.Diagnostics
