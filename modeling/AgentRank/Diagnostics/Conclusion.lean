import AgentRank.Benchmark.MetricBounds

/-!
# What a comparison may conclude

A comparison of two runs, and the diagnosis of an experiment, each come with the caveats that
qualify them and with one conclusion.  The caveats are told apart by their codes.
-/

namespace AgentRank.Diagnostics

open Benchmark

/-- The codes of the caveats, of comparisons and of experiments. -/
inductive WarningCode
  | runNotCompleted
  | suiteDiffers
  | environmentDiffers
  | evaluatorDiffers
  | catalogPinDiffers
  | executorDiffers
  | executorRevisionDiffers
  | buyerConfigurationDiffers
  | representationDeliveryDiffers
  | representationUnchanged
  | resolvedModelMismatch
  | providerFailuresPresent
  | tokenUsageUnavailable
  | smallSample
  | notAControlledExperiment
  | developmentBenchmark
  | implementationVersionUnrecorded
  | preDiscoveryBoundary
  | preThrottleRetry
  | notCounterbalanced
  | incompletePairs
  | notCausallyInterpretable
deriving DecidableEq

structure MethodologyWarning where
  code : WarningCode
  message : String
deriving DecidableEq

/-- One caveat, where there is a reason for it. -/
def warnIf (reason : Bool) (code : WarningCode) (message : String) : List MethodologyWarning :=
  if reason then [⟨code, message⟩] else []

theorem any_warnIf (reason : Bool) (code : WarningCode) (message : String)
    (codes : List WarningCode) :
    ((warnIf reason code message).any fun warning => warning.code ∈ codes) =
      (reason && decide (code ∈ codes)) := by
  cases reason <;> simp [warnIf]

inductive ConclusionKind
  | parity
  | outcomeDifferences
  | incomplete
  | notInterpretable
deriving DecidableEq

structure ComparisonConclusion where
  kind : ConclusionKind
  statement : String
deriving DecidableEq

/-- Where one mission ended. -/
structure MissionOutcomeFact where
  missionKey : String
  status : MissionRunStatus
  primaryFailureReason : Option FailureReason
deriving DecidableEq

namespace MissionOutcomeFact

/-- The position of a mission in a run. -/
def position (outcome : MissionOutcomeFact) : MissionRunStatus × Option FailureReason :=
  (outcome.status, outcome.primaryFailureReason)

/-- The outcome of one mission among those of a run. -/
def lookup (outcomes : List MissionOutcomeFact) (key : String) : Option MissionOutcomeFact :=
  outcomes.find? fun outcome => outcome.missionKey = key

section Lookup

variable {outcomes : List MissionOutcomeFact} {outcome : MissionOutcomeFact} {key : String}

theorem lookup_isSome : (lookup outcomes key).isSome = true ↔
    key ∈ outcomes.map missionKey := by
  simp [lookup, List.find?_isSome]

end Lookup

end MissionOutcomeFact

/-- What the value of a mission counts as. -/
inductive SimulatedDemandBucket
  | potential
  | captured
  | lost
  | notMeasured
deriving DecidableEq

namespace SimulatedDemandBucket

/-- What one entry of the demand states in a bucket. -/
def amount : SimulatedDemandBucket → SimulatedDemand → Int
  | .potential, demand => demand.potentialAmountMinor
  | .captured, demand => demand.capturedAmountMinor
  | .lost, demand => demand.lostAmountMinor
  | .notMeasured, demand => demand.notMeasuredAmountMinor

/-- An amount in one currency, zero where the currency has no entry. -/
def amountIn (bucket : SimulatedDemandBucket) (entries : List SimulatedDemand) (currency : String) :
    Int :=
  match entries.find? fun entry => entry.currency = currency with
  | some entry => bucket.amount entry
  | none => 0

section AmountIn

variable {bucket : SimulatedDemandBucket} {entries : List SimulatedDemand} {currency : String}

theorem amountIn_of_notMem (absent : currency ∉ entries.map SimulatedDemand.currency) :
    bucket.amountIn entries currency = 0 := by
  have none : entries.find? (fun entry => entry.currency = currency) = none := by
    rw [List.find?_eq_none]
    intro entry listed
    rw [decide_eq_true_eq]
    intro same
    exact absent (List.mem_map.mpr ⟨entry, listed, same⟩)
  rw [amountIn, none]

/-- Where each currency has one entry, its amount is the sum of what is stated in it. -/
theorem amountIn_eq_sum (once : (entries.map SimulatedDemand.currency).Nodup) :
    bucket.amountIn entries currency =
      (entries.map fun entry =>
        if entry.currency = currency then bucket.amount entry else 0).sum := by
  induction entries with
  | nil => rfl
  | cons entry rest ih =>
      rw [List.map_cons, List.nodup_cons] at once
      rw [List.map_cons, List.sum_cons, ← ih once.2]
      by_cases same : entry.currency = currency
      · have absent : currency ∉ rest.map SimulatedDemand.currency := same ▸ once.1
        rw [if_pos same, amountIn_of_notMem absent, add_zero]
        simp [amountIn, same]
      · rw [if_neg same, zero_add]
        simp [amountIn, same]

end AmountIn

end SimulatedDemandBucket

/-- A text that occurs in another. -/
def Mentions (statement text : String) : Prop :=
  text.toList <:+: statement.toList

namespace Mentions

variable {first second text : String}

theorem append_right (mentions : Mentions first text) : Mentions (first ++ second) text := by
  unfold Mentions
  rw [String.toList_append]
  exact mentions.trans (List.prefix_append _ _).isInfix

theorem append_left (mentions : Mentions second text) : Mentions (first ++ second) text := by
  unfold Mentions
  rw [String.toList_append]
  exact mentions.trans (List.suffix_append _ _).isInfix

theorem refl (text : String) : Mentions text text :=
  List.infix_refl _

/-- A joined text mentions whatever one of its parts mentions. -/
theorem intercalate {parts : List String} {part : String} (separator : String)
    (member : part ∈ parts) (mentions : Mentions part text) :
    Mentions (separator.intercalate parts) text := by
  induction parts with
  | nil => cases member
  | cons head rest ih =>
      cases rest with
      | nil =>
          rw [String.intercalate_singleton]
          rw [List.mem_singleton] at member
          exact member ▸ mentions
      | cons next others =>
          rw [String.intercalate_cons_cons]
          rcases List.mem_cons.mp member with rfl | later
          · exact append_right (append_right mentions)
          · exact append_left (ih later)

end Mentions

end AgentRank.Diagnostics
