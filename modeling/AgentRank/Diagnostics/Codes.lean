import Mathlib.Data.List.MinMax
import Mathlib.Data.List.Sort
import Mathlib.Data.Prod.Lex
import Mathlib.Data.String.Basic

/-!
# The diagnostic vocabulary

This module models `diagnostics/codes.py`: what a diagnostic code means, who owns it, and which
code leads a diagnosis.  Two codes never lead one.
-/

namespace AgentRank.Diagnostics

inductive EvidenceLevel
  | trustedFact
  | deterministicAttribution
  | unresolved
deriving DecidableEq

inductive Actionability
  | merchantAction
  | noMerchantAction
  | agentSystemAction
  | reviewRequired
deriving DecidableEq

inductive DiagnosticOwner
  | merchantCatalog
  | merchantReview
  | compiler
  | buyerAgent
  | modelProvider
  | commerceRuntime
  | paymentProvider
  | benchmarkInfrastructure
  | unknown
deriving DecidableEq

inductive Severity
  | critical
  | high
  | medium
  | low
deriving DecidableEq

def Severity.rank : Severity → Nat
  | low => 0
  | medium => 1
  | high => 2
  | critical => 3

/-- `highest_severity`. -/
def highestSeverity (severities : List Severity) : Severity :=
  (severities.argmax Severity.rank).getD .low

inductive DiagnosticCode
  | safetyEscape
  | providerOutageTerminatedMission
  | benchmarkHarnessFault
  | missionNotMeasured
  | groundTruthDisagreement
  | agentReportContradiction
  | agentExecutionFailure
  | selectionViolatedRequirements
  | unsafeAttemptBlocked
  | authorizationDeniedCompliantAttempt
  | merchantSurfaceError
  | checkoutRefused
  | stockUnavailable
  | categoryNotPublished
  | attributeNotPublished
  | attributeUnreadable
  | discoveryFailed
  | paymentDeclined
  | paymentUnresolved
  | providerThrottleRecovered
  | resolvedModelMismatch
deriving DecidableEq

namespace DiagnosticCode

def value : DiagnosticCode → String
  | safetyEscape => "SAFETY_ESCAPE"
  | providerOutageTerminatedMission => "PROVIDER_OUTAGE_TERMINATED_MISSION"
  | benchmarkHarnessFault => "BENCHMARK_HARNESS_FAULT"
  | missionNotMeasured => "MISSION_NOT_MEASURED"
  | groundTruthDisagreement => "GROUND_TRUTH_DISAGREEMENT"
  | agentReportContradiction => "AGENT_REPORT_CONTRADICTION"
  | agentExecutionFailure => "AGENT_EXECUTION_FAILURE"
  | selectionViolatedRequirements => "SELECTION_VIOLATED_REQUIREMENTS"
  | unsafeAttemptBlocked => "UNSAFE_ATTEMPT_BLOCKED"
  | authorizationDeniedCompliantAttempt => "AUTHORIZATION_DENIED_COMPLIANT_ATTEMPT"
  | merchantSurfaceError => "MERCHANT_SURFACE_ERROR"
  | checkoutRefused => "CHECKOUT_REFUSED"
  | stockUnavailable => "STOCK_UNAVAILABLE"
  | categoryNotPublished => "CATEGORY_NOT_PUBLISHED"
  | attributeNotPublished => "ATTRIBUTE_NOT_PUBLISHED"
  | attributeUnreadable => "ATTRIBUTE_UNREADABLE"
  | discoveryFailed => "DISCOVERY_FAILED"
  | paymentDeclined => "PAYMENT_DECLINED"
  | paymentUnresolved => "PAYMENT_UNRESOLVED"
  | providerThrottleRecovered => "PROVIDER_THROTTLE_RECOVERED"
  | resolvedModelMismatch => "RESOLVED_MODEL_MISMATCH"

/-- The codes as they are declared. -/
def all : List DiagnosticCode :=
  [safetyEscape, providerOutageTerminatedMission, benchmarkHarnessFault, missionNotMeasured,
    groundTruthDisagreement, agentReportContradiction, agentExecutionFailure,
    selectionViolatedRequirements, unsafeAttemptBlocked, authorizationDeniedCompliantAttempt,
    merchantSurfaceError, checkoutRefused, stockUnavailable, categoryNotPublished,
    attributeNotPublished, attributeUnreadable, discoveryFailed, paymentDeclined,
    paymentUnresolved, providerThrottleRecovered, resolvedModelMismatch]

/-- `DiagnosticCode(text)`. -/
def ofValue? (text : String) : Option DiagnosticCode :=
  all.find? fun code => code.value == text

@[simp]
theorem ofValue?_value (code : DiagnosticCode) : ofValue? code.value = some code := by
  cases code <;> decide +kernel

/-- No value of a code holds a colon. -/
theorem colon_notMem_value (code : DiagnosticCode) : ':' ∉ code.value.toList := by
  cases code <;> decide +kernel

end DiagnosticCode

/-- What a code carries wherever it appears. -/
structure DiagnosticIdentity where
  code : DiagnosticCode
  owner : DiagnosticOwner
  actionability : Actionability
  severity : Severity
  evidenceLevel : EvidenceLevel
deriving DecidableEq

/-- `identity_for`, which is `IDENTITIES` read at a code. -/
def identityFor : DiagnosticCode → DiagnosticIdentity
  | .safetyEscape =>
      ⟨.safetyEscape, .commerceRuntime, .agentSystemAction, .critical, .trustedFact⟩
  | .providerOutageTerminatedMission =>
      ⟨.providerOutageTerminatedMission, .modelProvider, .noMerchantAction, .high,
        .deterministicAttribution⟩
  | .benchmarkHarnessFault =>
      ⟨.benchmarkHarnessFault, .benchmarkInfrastructure, .noMerchantAction, .medium,
        .trustedFact⟩
  | .missionNotMeasured =>
      ⟨.missionNotMeasured, .benchmarkInfrastructure, .noMerchantAction, .low, .unresolved⟩
  | .groundTruthDisagreement =>
      ⟨.groundTruthDisagreement, .benchmarkInfrastructure, .noMerchantAction, .medium,
        .trustedFact⟩
  | .agentReportContradiction =>
      ⟨.agentReportContradiction, .buyerAgent, .agentSystemAction, .medium, .trustedFact⟩
  | .agentExecutionFailure =>
      ⟨.agentExecutionFailure, .buyerAgent, .agentSystemAction, .medium, .trustedFact⟩
  | .selectionViolatedRequirements =>
      ⟨.selectionViolatedRequirements, .buyerAgent, .agentSystemAction, .medium, .trustedFact⟩
  | .unsafeAttemptBlocked =>
      ⟨.unsafeAttemptBlocked, .buyerAgent, .noMerchantAction, .low, .trustedFact⟩
  | .authorizationDeniedCompliantAttempt =>
      ⟨.authorizationDeniedCompliantAttempt, .unknown, .reviewRequired, .medium, .trustedFact⟩
  | .merchantSurfaceError =>
      ⟨.merchantSurfaceError, .merchantCatalog, .merchantAction, .high, .trustedFact⟩
  | .checkoutRefused =>
      ⟨.checkoutRefused, .merchantCatalog, .merchantAction, .medium, .trustedFact⟩
  | .stockUnavailable =>
      ⟨.stockUnavailable, .merchantCatalog, .merchantAction, .medium, .trustedFact⟩
  | .categoryNotPublished =>
      ⟨.categoryNotPublished, .merchantCatalog, .merchantAction, .medium, .trustedFact⟩
  | .attributeNotPublished =>
      ⟨.attributeNotPublished, .merchantCatalog, .merchantAction, .medium, .trustedFact⟩
  | .attributeUnreadable =>
      ⟨.attributeUnreadable, .merchantCatalog, .merchantAction, .medium, .trustedFact⟩
  | .discoveryFailed => ⟨.discoveryFailed, .unknown, .reviewRequired, .medium, .unresolved⟩
  | .paymentDeclined =>
      ⟨.paymentDeclined, .paymentProvider, .noMerchantAction, .medium, .trustedFact⟩
  | .paymentUnresolved =>
      ⟨.paymentUnresolved, .paymentProvider, .reviewRequired, .medium, .trustedFact⟩
  | .providerThrottleRecovered =>
      ⟨.providerThrottleRecovered, .modelProvider, .noMerchantAction, .low, .trustedFact⟩
  | .resolvedModelMismatch =>
      ⟨.resolvedModelMismatch, .modelProvider, .reviewRequired, .low, .trustedFact⟩

/-- An identity is the one of its own code. -/
@[simp]
theorem code_identityFor (code : DiagnosticCode) : (identityFor code).code = code := by
  cases code <;> rfl

/-- Which code leads a diagnosis before which. -/
def primaryPrecedence : List DiagnosticCode :=
  [.safetyEscape, .providerOutageTerminatedMission, .benchmarkHarnessFault, .missionNotMeasured,
    .groundTruthDisagreement, .agentReportContradiction, .merchantSurfaceError,
    .agentExecutionFailure, .categoryNotPublished, .attributeNotPublished, .attributeUnreadable,
    .stockUnavailable, .checkoutRefused, .selectionViolatedRequirements, .unsafeAttemptBlocked,
    .authorizationDeniedCompliantAttempt, .paymentDeclined, .paymentUnresolved, .discoveryFailed]

/-- The codes that never lead, in their own order. -/
def secondaryOrder : List DiagnosticCode :=
  [.providerThrottleRecovered, .resolvedModelMismatch]

def isSecondaryOnly (code : DiagnosticCode) : Bool :=
  secondaryOrder.contains code

/-- A code may lead a diagnosis. -/
def isEligible (code : DiagnosticCode) : Bool :=
  !isSecondaryOnly code && primaryPrecedence.contains code

/-- `primary_code`. -/
def primaryCode (codes : List DiagnosticCode) : Option DiagnosticCode :=
  (codes.filter isEligible).argmin primaryPrecedence.idxOf

/-- `precedence_rank`. -/
def precedenceRank (code : DiagnosticCode) : Nat :=
  if isSecondaryOnly code then primaryPrecedence.length + secondaryOrder.idxOf code
  else primaryPrecedence.idxOf code

/-- `sort_codes`, of codes that are pairwise distinct. -/
def sortCodes (codes : List DiagnosticCode) : List DiagnosticCode :=
  codes.mergeSort fun first second =>
    decide (toLex (isSecondaryOnly first, precedenceRank first) ≤
      toLex (isSecondaryOnly second, precedenceRank second))

variable {codes : List DiagnosticCode} {code : DiagnosticCode}

theorem mem_sortCodes :
    code ∈ sortCodes codes ↔ code ∈ codes :=
  (List.mergeSort_perm _ _).mem_iff

theorem sortCodes_nodup (distinct : codes.Nodup) :
    (sortCodes codes).Nodup :=
  (List.mergeSort_perm _ _).nodup_iff.mpr distinct

/-- A code leads wherever one may. -/
theorem primaryCode_isSome_iff :
    (primaryCode codes).isSome = true ↔ ∃ code ∈ codes, isEligible code = true := by
  rw [Option.isSome_iff_ne_none, Ne, primaryCode, List.argmin_eq_none, List.filter_eq_nil_iff]
  push Not
  rfl

theorem mem_of_primaryCode (leads : primaryCode codes = some code) : code ∈ codes :=
  List.mem_of_mem_filter (List.argmin_mem leads)

/-- Every code may lead, up to the two that never do. -/
theorem isEligible_iff :
    isEligible code = true ↔ code ∉ secondaryOrder := by
  cases code <;> decide

end AgentRank.Diagnostics
