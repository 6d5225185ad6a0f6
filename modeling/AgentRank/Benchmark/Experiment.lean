import AgentRank.Relational.Unique
import AgentRank.Representation.Definitions
import Mathlib.Data.List.MinMax

/-!
# Paired experiments

This module models `benchmark/experiment.py`: how a paired study is created, which sample is
next, and how a run is bound to it, under the triggers and constraints of the migrations that
add the two tables.

The value of a buyer configuration is compared and never read, so its type is a parameter.
-/

namespace AgentRank.Benchmark

open Relational Representation Store

universe u

inductive RepresentationKind
  | raw
  | compiled
deriving DecidableEq

/-- What a sample is run with.  A check constraint refuses every other shape. -/
inductive SampleIdentity
  | raw (sourceSnapshotId : Uuid)
  | compiled (representationId : Uuid)
deriving DecidableEq

def SampleIdentity.kind : SampleIdentity → RepresentationKind
  | raw _ => .raw
  | compiled _ => .compiled

/-- A study.  No column of it ever changes. -/
structure CompilerImpactExperiment (γ : Type u) where
  id : Uuid
  merchantId : Uuid
  suiteId : Uuid
  environmentId : Uuid
  sourceSnapshotId : Uuid
  compiledRepresentationId : Uuid
  buyerConfigurationDigest : ContentHash
  buyerConfiguration : γ
  pairOrder : Option String
  sampleCount : Nat

structure CompilerImpactSample where
  id : Uuid
  experimentId : Uuid
  merchantId : Uuid
  pairOrdinal : Nat
  executionOrdinal : Nat
  identity : SampleIdentity
  runId : Option Uuid
deriving DecidableEq

/-- A run with the pins that an experiment compares. -/
structure ComparedRun (γ : Type u) extends BenchmarkRun where
  suiteId : Uuid
  environmentId : Option Uuid
  agentConfiguration : Option γ
  executorRevision : Option String
  representationId : Option Uuid
  catalogHash : Option String
  evaluatorVersion : Option String

variable {γ : Type u}

instance : Keyed (CompilerImpactExperiment γ) Uuid where
  key experiment := experiment.id

instance : Keyed CompilerImpactSample Uuid where
  key sample := sample.id

instance : Keyed (ComparedRun γ) Uuid where
  key run := run.id

/-- The place of a sample in its experiment. -/
def CompilerImpactSample.slot (sample : CompilerImpactSample) : Uuid × Nat :=
  (sample.experimentId, sample.executionOrdinal)

/-- The tables, and which run was bound to which sample in the order of the commits. -/
structure ExperimentStore (γ : Type u) where
  experiments : Table (CompilerImpactExperiment γ)
  samples : Table CompilerImpactSample
  runs : Table (ComparedRun γ)
  bindings : List (CompilerImpactSample × Uuid) := []
  refusals : List (Uuid × Uuid × Failure) := []

/-- The declared order of the arms of a pair, where it is a known one. -/
def counterbalanced? (pairOrder : Option String) : Option Bool :=
  match pairOrder.getD "raw_then_compiled" with
  | "raw_then_compiled" => some false
  | "counterbalanced" => some true
  | _ => none

/-- The arm that a slot of a pair is run with. -/
def expectedKind (isCounterbalanced : Bool) (pairOrdinal executionOrdinal : Nat) :
    RepresentationKind :=
  let firstSlot := decide (executionOrdinal = pairOrdinal * 2 - 1)
  let opensCompiled := isCounterbalanced && decide (pairOrdinal % 2 = 0)
  if firstSlot = opensCompiled then .compiled else .raw

/-- `_validate_sample_identity`. -/
def validateSampleIdentity (experiment : CompilerImpactExperiment γ)
    (sample : CompilerImpactSample) : Except Failure Unit :=
  match counterbalanced? experiment.pairOrder with
  | none => .error (valueError "compiler impact experiment declares an unknown pair order")
  | some isCounterbalanced =>
      if ¬(1 ≤ sample.pairOrdinal ∧ sample.pairOrdinal ≤ experiment.sampleCount) then
        .error (valueError "compiler impact sample pair is outside experiment plan")
      else if sample.identity.kind ≠
            expectedKind isCounterbalanced sample.pairOrdinal sample.executionOrdinal ∨
          ¬(sample.executionOrdinal = sample.pairOrdinal * 2 - 1 ∨
            sample.executionOrdinal = sample.pairOrdinal * 2) then
        .error (valueError "compiler impact sample order does not match experiment plan")
      else
        match sample.identity with
        | .raw sourceSnapshotId =>
            if sourceSnapshotId ≠ experiment.sourceSnapshotId then
              .error (valueError "compiler impact raw sample source does not match experiment")
            else .ok ()
        | .compiled representationId =>
            if representationId ≠ experiment.compiledRepresentationId then
              .error (valueError "compiler impact compiled sample does not match experiment")
            else .ok ()

/-! ## Creation -/

/-- What a study is asked for. -/
structure NewExperiment (γ : Type u) where
  merchantId : Uuid
  suiteId : Uuid
  environmentId : Uuid
  sourceSnapshotId : Uuid
  compiledRepresentationId : Uuid
  buyerConfiguration : γ
  buyerConfigurationDigest : ContentHash
  sampleCount : Nat

/-- What `create` reads of a representation. -/
structure TreatmentLineage where
  producer : RepresentationProducer
  compilerRunId : Option Uuid
  sourceSnapshotId : Option Uuid

/-- What `create` reads of the merchant, the suite, the environment and the lineage. -/
structure CreationFacts where
  sourceFound : Bool
  merchantSlug : Option String
  suiteMerchantSlug : Option String
  environmentMerchantId : Uuid
  representation : Option TreatmentLineage
  compilerRunSource : Option Uuid
  drift : List String

def maxReported : Nat := 3

/-- The first check of `create` that fails. -/
def creationRefusal (request : NewExperiment γ) (facts : CreationFacts) : Option Failure :=
  if !facts.sourceFound then
    some (.notFound "merchant_source_snapshot" (toString request.sourceSnapshotId))
  else
    match facts.merchantSlug, facts.suiteMerchantSlug, facts.representation with
    | none, _, _ => some (.notFound "merchant" (toString request.merchantId))
    | some _, none, _ => some (.notFound "benchmark_suite" (toString request.suiteId))
    | some merchantSlug, some suiteSlug, representation =>
        if suiteSlug ≠ merchantSlug then
          some (valueError "compiler impact benchmark suite belongs to another merchant")
        else if facts.environmentMerchantId ≠ request.merchantId then
          some (valueError "compiler impact benchmark environment belongs to another merchant")
        else
          match representation with
          | none =>
              some (.notFound "commerce_representation"
                (toString request.compiledRepresentationId))
          | some lineage =>
              if lineage.producer ≠ .compiler then
                some (valueError
                  "a compiler impact treatment must be compiler-produced Commerce IR")
              else if lineage.compilerRunId.isNone ∨
                  lineage.sourceSnapshotId ≠ some request.sourceSnapshotId then
                some (valueError
                  "compiled treatment must derive from the experiment source snapshot")
              else
                match facts.compilerRunSource with
                | none => some (valueError "compiler treatment is missing its compiler run")
                | some source =>
                    if source ≠ request.sourceSnapshotId then
                      some (valueError
                        "compiled treatment compiler run must derive from the experiment source")
                    else if facts.drift ≠ [] then
                      some (valueError
                        ("compiled treatment describes products this benchmark environment does not hold: "
                          ++ String.intercalate "; " (facts.drift.take maxReported)))
                    else none

/-- The identifiers that a creation draws. -/
structure ExperimentDraws where
  experimentId : Uuid
  sampleId : Nat → Uuid

/-- The two arms of a pair, in the order they are run. -/
def armsOf (pair : Nat) : RepresentationKind × RepresentationKind :=
  if pair % 2 = 1 then (.raw, .compiled) else (.compiled, .raw)

section Creation

variable (request : NewExperiment γ) (draws : ExperimentDraws)

def NewExperiment.row : CompilerImpactExperiment γ where
  id := draws.experimentId
  merchantId := request.merchantId
  suiteId := request.suiteId
  environmentId := request.environmentId
  sourceSnapshotId := request.sourceSnapshotId
  compiledRepresentationId := request.compiledRepresentationId
  buyerConfigurationDigest := request.buyerConfigurationDigest
  buyerConfiguration := request.buyerConfiguration
  pairOrder := some "counterbalanced"
  sampleCount := request.sampleCount

def NewExperiment.identity : RepresentationKind → SampleIdentity
  | .raw => .raw request.sourceSnapshotId
  | .compiled => .compiled request.compiledRepresentationId

def NewExperiment.sample (pair offset : Nat) (kind : RepresentationKind) :
    CompilerImpactSample where
  id := draws.sampleId ((pair - 1) * 2 + offset + 1)
  experimentId := draws.experimentId
  merchantId := request.merchantId
  pairOrdinal := pair
  executionOrdinal := (pair - 1) * 2 + offset + 1
  identity := request.identity kind
  runId := none

/-- The rows of one pair. -/
def NewExperiment.pairRows (pair : Nat) : List CompilerImpactSample :=
  [request.sample draws pair 0 (armsOf pair).1, request.sample draws pair 1 (armsOf pair).2]

def NewExperiment.samples : List CompilerImpactSample :=
  (List.range' 1 request.sampleCount).flatMap (request.pairRows draws)

/-- `create`, in its one transaction. -/
def createExperiment (facts : CreationFacts) (store : ExperimentStore γ) :
    Except Failure (ExperimentStore γ) :=
  match creationRefusal request facts with
  | some failure => .error failure
  | none =>
      if ¬(0 < request.sampleCount ∧ request.sampleCount ≤ 3) then
        .error (.integrityError "sample_count_bounded")
      else
        match store.experiments.insert? (request.row draws),
            store.samples.insertAll? (request.samples draws) with
        | some experiments, some samples =>
            .ok { store with experiments := experiments, samples := samples }
        | _, _ => .error (.integrityError "pk_compiler_impact_sample")

end Creation

/-- The frozen experiment and sample that a client was given. -/
structure ExperimentTreatment (γ : Type u) where
  experiment : CompilerImpactExperiment γ
  sample : CompilerImpactSample

/-- The experiments and samples of one merchant. -/
structure ExperimentAddress where
  merchantId : Uuid
  experimentId : Uuid

def ExperimentStore.experiment? (store : ExperimentStore γ) (address : ExperimentAddress) :
    Option (CompilerImpactExperiment γ) :=
  (store.experiments.get? address.experimentId).filter fun experiment =>
    experiment.merchantId = address.merchantId

/-- The samples of an experiment that are bound to no run. -/
def ExperimentStore.unbound (store : ExperimentStore γ) (address : ExperimentAddress) :
    List CompilerImpactSample :=
  store.samples.rows.filter fun sample =>
    sample.experimentId = address.experimentId && sample.merchantId = address.merchantId &&
      sample.runId.isNone

/-- The first in the order of execution. -/
def firstSample (samples : List CompilerImpactSample) : Option CompilerImpactSample :=
  List.argmin CompilerImpactSample.executionOrdinal samples

/-- `next_treatment`, up to the projection that is handed to the buyer. -/
def nextTreatment (address : ExperimentAddress) (store : ExperimentStore γ) :
    Except Failure (ExperimentTreatment γ) :=
  match store.experiment? address with
  | none => .error (.notFound "compiler_impact_experiment" (toString address.experimentId))
  | some experiment =>
      match firstSample (store.unbound address) with
      | none =>
          .error (.conflict "compiler_impact_experiment_complete"
            (toString address.experimentId) none none)
      | some sample =>
          match validateSampleIdentity experiment sample with
          | .error failure => .error failure
          | .ok _ => .ok { experiment := experiment, sample := sample }

/-- The row that `bind_run` locks, while it is bound to no run. -/
def lockSample (treatment : ExperimentTreatment γ) (store : ExperimentStore γ) :
    Except Failure CompilerImpactSample :=
  match (store.samples.get? treatment.sample.id).filter fun sample =>
      sample.experimentId = treatment.experiment.id && sample.runId.isNone with
  | none =>
      .error (.conflict "compiler_impact_sample_already_started"
        (toString treatment.sample.id) none none)
  | some sample =>
      match validateSampleIdentity treatment.experiment sample with
      | .error failure => .error failure
      | .ok _ => .ok sample

/-- `_run`.  A session that holds the run keeps the status it has read. -/
def readComparedRun (treatment : ExperimentTreatment γ) (runId : Uuid)
    (heldStatus : Option BenchmarkRunStatus) (store : ExperimentStore γ) :
    Except Failure (ComparedRun γ) :=
  match (store.runs.get? runId).filter fun run =>
      run.merchantId = treatment.experiment.merchantId with
  | none => .error (.notFound "benchmark_run" (toString runId))
  | some run => .ok { run with status := heldStatus.getD run.status }

/-- `_validate_run_binding`. -/
def validateRunBinding [DecidableEq γ] (treatment : ExperimentTreatment γ)
    (run : ComparedRun γ) : Except Failure Unit :=
  if run.status ≠ .running then
    .error (valueError "compiler impact sample requires a running benchmark run")
  else if run.suiteId ≠ treatment.experiment.suiteId then
    .error (valueError "compiler impact sample benchmark suite does not match experiment")
  else if run.environmentId ≠ some treatment.experiment.environmentId then
    .error (valueError "compiler impact sample benchmark world does not match experiment")
  else if run.agentConfiguration ≠ some treatment.experiment.buyerConfiguration then
    .error (valueError "compiler impact sample buyer configuration does not match experiment")
  else if run.executorRevision ≠ some treatment.experiment.buyerConfigurationDigest.text then
    .error (valueError "compiler impact sample executor does not match experiment")
  else
    match treatment.sample.identity with
    | .raw _ =>
        if run.representationId.isSome then
          .error (valueError "raw sample cannot use a Commerce IR benchmark representation")
        else .ok ()
    | .compiled representationId =>
        if run.representationId ≠ some representationId then
          .error (valueError "compiled sample benchmark representation does not match experiment")
        else .ok ()

/-- The pins that two runs of one experiment have in common. -/
def ComparedRun.pins (run : ComparedRun γ) : Option String × Option String :=
  (run.catalogHash, run.evaluatorVersion)

/-- The pins of the runs that an experiment has bound. -/
def ExperimentStore.boundPins (store : ExperimentStore γ) (experimentId : Uuid) :
    List (Option String × Option String) :=
  (store.samples.rows.filter fun sample => sample.experimentId = experimentId).filterMap
    fun sample => sample.runId.bind fun runId => (store.runs.get? runId).map ComparedRun.pins

/-- `_validate_existing_run_pins`. -/
def validateExistingRunPins (treatment : ExperimentTreatment γ) (run : ComparedRun γ)
    (store : ExperimentStore γ) : Except Failure Unit :=
  if run.catalogHash.isNone ∨ run.evaluatorVersion.isNone then
    .error (valueError "compiler impact sample is missing benchmark identity pins")
  else if ∀ pins ∈ store.boundPins treatment.experiment.id, pins = run.pins then .ok ()
  else .error (valueError "compiler impact sample benchmark pins do not match experiment")

/-- The write of `bind_run`, under the triggers and constraints of the table. -/
def bindSample (sample : CompilerImpactSample) (runId : Uuid) (store : ExperimentStore γ) :
    Except Failure (ExperimentStore γ) :=
  match store.samples.get? sample.id with
  | none => .error (.notFound "compiler_impact_sample" (toString sample.id))
  | some stored =>
      if stored.runId.isSome then
        .error (.integrityError "compiler impact sample run binding is immutable")
      else if store.samples.rows.any fun other => other.runId = some runId then
        .error (.integrityError "uq_compiler_impact_sample_run")
      else
        .ok
          { store with
            samples := store.samples.set { stored with runId := some runId }
            bindings := store.bindings ++ [(stored, runId)] }

end AgentRank.Benchmark
