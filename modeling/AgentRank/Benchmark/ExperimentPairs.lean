import AgentRank.Benchmark.Experiment
import AgentRank.Transition.Clients

/-!
# Experiments stay paired under every order of steps

Any number of clients take the next treatment of an experiment, start a run and bind it.  The
next sample is chosen in one transaction and bound in another, and the binding reads its row
under a lock, the run, and the runs bound so far, before it writes.

Only the first unbound sample of an experiment is ever handed out.  So two clients that hold
different samples of one experiment hold at least one that is bound already, and the clients
that can still bind all wait for the lock of one row.
-/

namespace AgentRank.Benchmark

open Relational Representation Store Transition

universe u

variable {γ : Type u}

/-! ## Clients -/

inductive ExperimentCall (γ : Type u)
  | create (request : NewExperiment γ) (draws : ExperimentDraws) (facts : CreationFacts)
  | compare (address : ExperimentAddress)

/-- The run that a client has started for its treatment, and the status of it that its session
holds. -/
structure ExperimentInput where
  runId : Uuid
  heldStatus : Option BenchmarkRunStatus := none

inductive ExperimentStage (γ : Type u)
  | creating (request : NewExperiment γ) (draws : ExperimentDraws) (facts : CreationFacts)
  | choosing (address : ExperimentAddress)
  | treating (treatment : ExperimentTreatment γ)
  /-- The row of the sample is locked. -/
  | locked (treatment : ExperimentTreatment γ) (runId : Uuid)
      (heldStatus : Option BenchmarkRunStatus)
  | checked (treatment : ExperimentTreatment γ) (run : ComparedRun γ)
  | pinned (treatment : ExperimentTreatment γ) (run : ComparedRun γ)

/-- What happens to the runs outside of the clients. -/
inductive RunOccurrence (γ : Type u)
  | started (run : ComparedRun γ)
  | moved (runId : Uuid) (status : BenchmarkRunStatus)

def ExperimentCall.enter : ExperimentCall γ → ExperimentStage γ
  | .create request draws facts => .creating request draws facts
  | .compare address => .choosing address

def ExperimentStore.refuse (store : ExperimentStore γ) (sampleId runId : Uuid)
    (failure : Failure) : ExperimentStore γ :=
  { store with refusals := store.refusals ++ [(sampleId, runId, failure)] }

/-- One step of a client.  A client keeps its treatment and may present it with another run. -/
def ExperimentStage.act [DecidableEq γ] (stage : ExperimentStage γ) (input : ExperimentInput)
    (store : ExperimentStore γ) : ExperimentStore γ × Option (ExperimentStage γ) :=
  match stage with
  | .creating request draws facts =>
      match createExperiment request draws facts store with
      | .error _ => (store, none)
      | .ok final => (final, none)
  | .choosing address =>
      match nextTreatment address store with
      | .error _ => (store, none)
      | .ok treatment => (store, some (.treating treatment))
  | .treating treatment =>
      match lockSample treatment store with
      | .error failure =>
          (store.refuse treatment.sample.id input.runId failure, some (.treating treatment))
      | .ok _ => (store, some (.locked treatment input.runId input.heldStatus))
  | .locked treatment runId heldStatus =>
      match readComparedRun treatment runId heldStatus store with
      | .error failure =>
          (store.refuse treatment.sample.id runId failure, some (.treating treatment))
      | .ok run =>
          match validateRunBinding treatment run with
          | .error failure =>
              (store.refuse treatment.sample.id runId failure, some (.treating treatment))
          | .ok _ => (store, some (.checked treatment run))
  | .checked treatment run =>
      match validateExistingRunPins treatment run store with
      | .error failure =>
          (store.refuse treatment.sample.id run.id failure, some (.treating treatment))
      | .ok _ => (store, some (.pinned treatment run))
  | .pinned treatment run =>
      match bindSample treatment.sample run.id store with
      | .error failure =>
          (store.refuse treatment.sample.id run.id failure, some (.treating treatment))
      | .ok final => (final, some (.treating treatment))

/-- A run is started with an identifier of its own, and later moves from status to status.
Nothing else of it changes. -/
def RunOccurrence.act (event : RunOccurrence γ) (store : ExperimentStore γ) :
    ExperimentStore γ :=
  match event with
  | .started run =>
      match store.runs.insert? run with
      | none => store
      | some runs => { store with runs := runs }
  | .moved runId status =>
      match store.runs.get? runId with
      | none => store
      | some run => { store with runs := store.runs.set { run with status := status } }

def experimentSystem (γ : Type u) [DecidableEq γ] :
    System (ExperimentStore γ) (ExperimentCall γ) (ExperimentStage γ) ExperimentInput
      (RunOccurrence γ) where
  enter := ExperimentCall.enter
  act input stage store := stage.act input store
  outside event store := event.act store

abbrev ExperimentWorld (γ : Type u) := World (ExperimentStore γ) (ExperimentStage γ)

abbrev ExperimentEvent (γ : Type u) := Event (ExperimentCall γ) ExperimentInput (RunOccurrence γ)

/-- The sample whose row a client has locked. -/
def ExperimentStage.lockedSample : ExperimentStage γ → Option Uuid
  | .locked treatment _ _ | .checked treatment _ | .pinned treatment _ =>
      some treatment.sample.id
  | .creating _ _ _ | .choosing _ | .treating _ => none

/-- No two clients hold the lock of one row. -/
def rowLocks : System.Regime (ExperimentStage γ) (RunOccurrence γ) where
  beside first second :=
    ∀ sampleId, first.lockedSample = some sampleId → second.lockedSample ≠ some sampleId
  occurs _ := True

/-- The run says what catalog and what evaluator it was measured with. -/
def ComparedRun.Pinned (run : ComparedRun γ) : Prop :=
  run.catalogHash.isSome = true ∧ run.evaluatorVersion.isSome = true

/-- The run has what its experiment compares. -/
structure RunMatches (experiment : CompilerImpactExperiment γ) (sample : CompilerImpactSample)
    (run : ComparedRun γ) : Prop where
  suite : run.suiteId = experiment.suiteId
  environment : run.environmentId = some experiment.environmentId
  configuration : run.agentConfiguration = some experiment.buyerConfiguration
  executor : run.executorRevision = some experiment.buyerConfigurationDigest.text
  representation : run.representationId =
    match sample.identity.kind with
    | .raw => none
    | .compiled => some experiment.compiledRepresentationId
  pinned : run.Pinned

/-- The bindings of an experiment, in the order they were committed. -/
def ExperimentStore.bindingsOf (store : ExperimentStore γ) (experimentId : Uuid) :
    List (CompilerImpactSample × Uuid) :=
  store.bindings.filter fun binding => binding.1.experimentId = experimentId

/-- The place in a plan that an execution ordinal stands for. -/
def pairOf (executionOrdinal : Nat) : Nat :=
  (executionOrdinal + 1) / 2

/-- The arm of every execution of a plan. -/
def plannedKind (isCounterbalanced : Bool) (executionOrdinal : Nat) : RepresentationKind :=
  expectedKind isCounterbalanced (pairOf executionOrdinal) executionOrdinal

/-- An experiment is paired: it is bound in the order of its plan with the arms that the plan
declares, and every run bound to it has what the experiment compares and the pins of the
others. -/
structure Paired (store : ExperimentStore γ) (experiment : CompilerImpactExperiment γ) : Prop where
  ordered : (store.bindingsOf experiment.id).map (fun binding => binding.1.executionOrdinal) =
    List.range' 1 (store.bindingsOf experiment.id).length
  alternates : ∀ isCounterbalanced,
    counterbalanced? experiment.pairOrder = some isCounterbalanced →
      ∀ binding ∈ store.bindingsOf experiment.id,
        binding.1.identity.kind = plannedKind isCounterbalanced binding.1.executionOrdinal
  bound : ∀ sample ∈ store.samples, sample.experimentId = experiment.id → ∀ runId,
    sample.runId = some runId ↔
      ∃ binding ∈ store.bindingsOf experiment.id, binding.1.id = sample.id ∧ binding.2 = runId
  runs : ∀ sample ∈ store.samples, sample.experimentId = experiment.id → ∀ runId,
    sample.runId = some runId →
      ∃ run ∈ store.runs, run.id = runId ∧ RunMatches experiment sample run
  samePins : ∀ first ∈ store.samples, ∀ second ∈ store.samples,
    first.experimentId = experiment.id → second.experimentId = experiment.id →
      ∀ firstRun ∈ store.runs, ∀ secondRun ∈ store.runs,
        first.runId = some firstRun.id → second.runId = some secondRun.id →
          firstRun.pins = secondRun.pins

/-- Every sample stands in the plan of its experiment, and every place of a plan is taken. -/
structure PlanHolds (store : ExperimentStore γ) : Prop where
  slots : store.samples.Unique CompilerImpactSample.slot
  filed : ∀ sample ∈ store.samples, ∃ experiment ∈ store.experiments,
    experiment.id = sample.experimentId ∧ experiment.merchantId = sample.merchantId ∧
      1 ≤ sample.executionOrdinal ∧ sample.executionOrdinal ≤ 2 * experiment.sampleCount
  complete : ∀ experiment ∈ store.experiments, ∀ ordinal, 1 ≤ ordinal →
    ordinal ≤ 2 * experiment.sampleCount →
      ∃ sample ∈ store.samples, sample.slot = (experiment.id, ordinal)

/-- The samples that have been bound, and what they have been bound to. -/
structure BindingsHold (store : ExperimentStore γ) : Prop where
  ordered : ∀ experimentId,
    (store.bindingsOf experimentId).map (fun binding => binding.1.executionOrdinal) =
      List.range' 1 (store.bindingsOf experimentId).length
  counted : ∀ sample ∈ store.samples, sample.runId.isSome = true ↔
    sample.executionOrdinal ≤ (store.bindingsOf sample.experimentId).length
  stored : ∀ binding ∈ store.bindings,
    { binding.1 with runId := some binding.2 } ∈ store.samples
  logged : ∀ sample ∈ store.samples, ∀ runId, sample.runId = some runId →
    ∃ binding ∈ store.bindings, { binding.1 with runId := some binding.2 } = sample
  oneSample : ∀ first ∈ store.samples, ∀ second ∈ store.samples, ∀ runId,
    first.runId = some runId → second.runId = some runId → first = second
  bound : ∀ sample ∈ store.samples, ∀ runId, sample.runId = some runId →
    ∀ experiment ∈ store.experiments, experiment.id = sample.experimentId →
      validateSampleIdentity experiment sample = .ok () ∧
        ∃ run ∈ store.runs, run.id = runId ∧ RunMatches experiment sample run
  samePins : ∀ first ∈ store.samples, ∀ second ∈ store.samples,
    first.experimentId = second.experimentId →
      ∀ firstRun ∈ store.runs, ∀ secondRun ∈ store.runs,
        first.runId = some firstRun.id → second.runId = some secondRun.id →
          firstRun.pins = secondRun.pins

/-- No sample of the stored plans is bound yet. -/
structure Unstarted (store : ExperimentStore γ) : Prop extends PlanHolds store where
  unbound : ∀ sample ∈ store.samples, sample.runId = none
  unlogged : store.bindings = []

structure ExperimentsGood (store : ExperimentStore γ) : Prop
    extends PlanHolds store, BindingsHold store

/-- The pins of a run are those of all runs bound so far. -/
def PinsMatch (store : ExperimentStore γ) (treatment : ExperimentTreatment γ)
    (run : ComparedRun γ) : Prop :=
  run.Pinned ∧ ∀ sample ∈ store.samples, sample.experimentId = treatment.experiment.id →
    ∀ other ∈ store.runs, sample.runId = some other.id → other.pins = run.pins

/-! ## What the validations say -/

section Validations

variable {experiment : CompilerImpactExperiment γ} {sample : CompilerImpactSample}
  {treatment : ExperimentTreatment γ} {run : ComparedRun γ} {store : ExperimentStore γ}

/-- A sample that is valid has a known order of arms, and its identity is the one that the
experiment declares for its place. -/
theorem validateSampleIdentity_eq_ok (valid : validateSampleIdentity experiment sample = .ok ()) :
    ∃ isCounterbalanced, counterbalanced? experiment.pairOrder = some isCounterbalanced ∧
      sample.identity.kind = plannedKind isCounterbalanced sample.executionOrdinal ∧
      (sample.identity = .raw experiment.sourceSnapshotId ∨
        sample.identity = .compiled experiment.compiledRepresentationId) := by
  unfold validateSampleIdentity at valid
  split at valid
  · cases valid
  · next isCounterbalanced known =>
      split at valid
      · cases valid
      · next inPlan =>
          split at valid
          · cases valid
          · next inOrder =>
              rw [not_not] at inPlan
              rw [not_or, not_not, not_not] at inOrder
              refine ⟨isCounterbalanced, known, ?_, ?_⟩
              · have isPair : pairOf sample.executionOrdinal = sample.pairOrdinal := by
                  unfold pairOf
                  omega
                rw [plannedKind, isPair]
                exact inOrder.1
              · split at valid
                · next sourceSnapshotId isRaw =>
                    split at valid
                    · cases valid
                    · next same =>
                        rw [not_not] at same
                        exact Or.inl (by rw [isRaw, same])
                · next representationId isCompiled =>
                    split at valid
                    · cases valid
                    · next same =>
                        rw [not_not] at same
                        exact Or.inr (by rw [isCompiled, same])

/-- Whether a sample is valid does not depend on what it is bound to. -/
theorem validateSampleIdentity_bind (runId : Option Uuid) :
    validateSampleIdentity experiment { sample with runId := runId } =
      validateSampleIdentity experiment sample :=
  rfl

/-- A run that passes both validations has what the experiment compares. -/
theorem runMatches_of_validated [DecidableEq γ]
    (valid : validateSampleIdentity treatment.experiment treatment.sample = .ok ())
    (binding : validateRunBinding treatment run = .ok ()) (pinned : run.Pinned) :
    RunMatches treatment.experiment treatment.sample run := by
  rcases validateSampleIdentity_eq_ok valid with ⟨_, _, _, identity⟩
  unfold validateRunBinding at binding
  split at binding
  · cases binding
  · split at binding
    · cases binding
    · next suite =>
        split at binding
        · cases binding
        · next environment =>
            split at binding
            · cases binding
            · next configuration =>
                split at binding
                · cases binding
                · next executor =>
                    refine ⟨not_not.mp suite, not_not.mp environment, not_not.mp configuration,
                      not_not.mp executor, ?_, pinned⟩
                    rcases identity with isRaw | isCompiled
                    · simp only [isRaw, SampleIdentity.kind] at binding ⊢
                      split at binding
                      · cases binding
                      · next absent => simpa using absent
                    · simp only [isCompiled, SampleIdentity.kind] at binding ⊢
                      split at binding
                      · cases binding
                      · next same => exact not_not.mp same

theorem mem_boundPins_iff {experimentId : Uuid} {pins : Option String × Option String} :
    pins ∈ store.boundPins experimentId ↔
      ∃ sample ∈ store.samples, sample.experimentId = experimentId ∧
        ∃ run ∈ store.runs, sample.runId = some run.id ∧ run.pins = pins := by
  simp only [ExperimentStore.boundPins, List.mem_filterMap, List.mem_filter, decide_eq_true_eq,
    Option.bind_eq_some_iff, Option.map_eq_some_iff, Table.get?_eq_some_iff, and_assoc]
  constructor
  · rintro ⟨sample, member, ofExperiment, runId, isBound, run, stored, rfl, rfl⟩
    exact ⟨sample, member, ofExperiment, run, stored, isBound, rfl⟩
  · rintro ⟨sample, member, ofExperiment, run, stored, isBound, rfl⟩
    exact ⟨sample, member, ofExperiment, run.id, isBound, run, stored, rfl, rfl⟩

/-- A run that passes the comparison has pins, and they are those of every run bound so far. -/
theorem validateExistingRunPins_eq_ok (valid : validateExistingRunPins treatment run store = .ok ()) :
    PinsMatch store treatment run := by
  unfold validateExistingRunPins at valid
  split at valid
  · cases valid
  · next pinned =>
      split at valid
      · next same =>
          refine ⟨?_, ?_⟩
          · simpa [ComparedRun.Pinned, not_or, Option.isSome_iff_ne_none] using pinned
          · intro sample member ofExperiment other stored isBound
            exact same other.pins
              (mem_boundPins_iff.mpr ⟨sample, member, ofExperiment, other, stored, isBound, rfl⟩)
      · cases valid

end Validations

/-! ## What a step does to the store -/

/-- The runs are those that were there, up to their statuses, and perhaps others. -/
def RunsStay (before after : Table (ComparedRun γ)) : Prop :=
  ∀ run ∈ before, ∃ later ∈ after, ∃ status, later = { run with status := status }

/-- What a client was given: a valid sample of the experiment, before which all are bound. -/
structure Given (store : ExperimentStore γ) (treatment : ExperimentTreatment γ) : Prop where
  experiment : treatment.experiment ∈ store.experiments
  sample : ∃ runId, { treatment.sample with runId := runId } ∈ store.samples
  unbound : treatment.sample.runId = none
  ofExperiment : treatment.sample.experimentId = treatment.experiment.id
  valid : validateSampleIdentity treatment.experiment treatment.sample = .ok ()
  earlier : ∀ other ∈ store.samples, other.experimentId = treatment.experiment.id →
    other.executionOrdinal < treatment.sample.executionOrdinal → other.runId.isSome = true

/-- A run was read, and it has what the experiment compares. -/
structure RunRead (store : ExperimentStore γ) (treatment : ExperimentTreatment γ)
    (run : ComparedRun γ) : Prop where
  stored : ∃ stored ∈ store.runs, ∃ status, stored = { run with status := status }
  valid : run.Pinned → RunMatches treatment.experiment treatment.sample run

/-- What one step does.  A binding is written by the client that has locked its row. -/
inductive ExperimentMove (store : ExperimentStore γ) :
    Option Uuid → ExperimentStore γ → Prop
  | refused {locked : Option Uuid} (refusals : List (Uuid × Uuid × Failure)) :
      ExperimentMove store locked { store with refusals := refusals }
  | created {locked : Option Uuid} {request : NewExperiment γ} {draws : ExperimentDraws}
      {experiments : Table (CompilerImpactExperiment γ)} {samples : Table CompilerImpactSample}
      (newExperiment : store.experiments.insert? (request.row draws) = some experiments)
      (newSamples : store.samples.insertAll? (request.samples draws) = some samples) :
      ExperimentMove store locked
        { store with experiments := experiments, samples := samples }
  | bound {treatment : ExperimentTreatment γ} {run : ComparedRun γ}
      (given : Given store treatment) (stored : treatment.sample ∈ store.samples)
      (read : RunRead store treatment run) (pins : PinsMatch store treatment run)
      (unused : ∀ other ∈ store.samples, other.runId ≠ some run.id) :
      ExperimentMove store (some treatment.sample.id)
        { store with
          samples := store.samples.set { treatment.sample with runId := some run.id }
          bindings := store.bindings ++ [(treatment.sample, run.id)] }
  | ran {locked : Option Uuid} {runs : Table (ComparedRun γ)} (stay : RunsStay store.runs runs) :
      ExperimentMove store locked { store with runs := runs }

variable {sample : CompilerImpactSample} {runId : Uuid}

section Moves

variable {store final : ExperimentStore γ} {locked : Option Uuid}
  {treatment : ExperimentTreatment γ} {run : ComparedRun γ}

variable {experiment : CompilerImpactExperiment γ}

/-- What a run has to have does not depend on what its sample is bound to. -/
theorem RunMatches.bind (isMatch : RunMatches experiment sample run) (runId : Option Uuid) :
    RunMatches experiment { sample with runId := runId } run :=
  ⟨isMatch.suite, isMatch.environment, isMatch.configuration, isMatch.executor,
    isMatch.representation, isMatch.pinned⟩

/-- What a run has to have does not depend on its status. -/
theorem RunMatches.move (isMatch : RunMatches experiment sample run) (status : BenchmarkRunStatus) :
    RunMatches experiment sample { run with status := status } :=
  ⟨isMatch.suite, isMatch.environment, isMatch.configuration, isMatch.executor,
    isMatch.representation, isMatch.pinned⟩

theorem RunsStay.found {before after : Table (ComparedRun γ)} (stay : RunsStay before after)
    (found : ∃ run ∈ before, run.id = runId ∧ RunMatches experiment sample run) :
    ∃ run ∈ after, run.id = runId ∧ RunMatches experiment sample run := by
  rcases found with ⟨run, member, sameId, isMatch⟩
  rcases stay run member with ⟨later, laterMem, status, rfl⟩
  exact ⟨_, laterMem, sameId, isMatch.move status⟩

/-- The pins of a run that was there stay as they were. -/
theorem RunsStay.pins {before after : Table (ComparedRun γ)} (stay : RunsStay before after)
    {earlier later : ComparedRun γ} (earlierMem : earlier ∈ before) (laterMem : later ∈ after)
    (sameId : earlier.id = later.id) : later.pins = earlier.pins := by
  rcases stay earlier earlierMem with ⟨other, otherMem, status, rfl⟩
  have same := Table.eq_of_key_eq otherMem laterMem sameId
  rw [← same]
  rfl

/-- Two clients that can bind a sample of one experiment hold the same sample. -/
theorem eq_of_given (good : ExperimentsGood store) {first second : ExperimentTreatment γ}
    (firstGiven : Given store first) (secondGiven : Given store second)
    (firstMem : first.sample ∈ store.samples) (secondMem : second.sample ∈ store.samples)
    (same : first.experiment.id = second.experiment.id) : first.sample = second.sample := by
  rcases lt_trichotomy first.sample.executionOrdinal second.sample.executionOrdinal with
    earlier | equal | later
  · have isBound := secondGiven.earlier first.sample firstMem
      (firstGiven.ofExperiment.trans same) earlier
    rw [firstGiven.unbound] at isBound
    cases isBound
  · apply good.slots first.sample firstMem second.sample secondMem
    exact Prod.ext ((firstGiven.ofExperiment.trans same).trans secondGiven.ofExperiment.symm) equal
  · have isBound := firstGiven.earlier second.sample secondMem
      (secondGiven.ofExperiment.trans same.symm) later
    rw [secondGiven.unbound] at isBound
    cases isBound

/-- The sample that a client can bind is the next one of its plan. -/
theorem next_of_given (good : ExperimentsGood store) (given : Given store treatment)
    (stored : treatment.sample ∈ store.samples) :
    treatment.sample.executionOrdinal =
      (store.bindingsOf treatment.experiment.id).length + 1 := by
  have notCounted := (good.counted treatment.sample stored).not.mp (by simp [given.unbound])
  rw [given.ofExperiment, not_le] at notCounted
  by_contra notNext
  have later : (store.bindingsOf treatment.experiment.id).length + 1 <
      treatment.sample.executionOrdinal := by omega
  rcases good.filed treatment.sample stored with ⟨experiment, experimentMem, sameId, _, _, within⟩
  have sameExperiment : experiment.id = treatment.experiment.id :=
    sameId.trans given.ofExperiment
  rcases good.complete experiment experimentMem
    ((store.bindingsOf treatment.experiment.id).length + 1) (by omega) (by omega) with
    ⟨other, otherMem, slot⟩
  have otherExperiment : other.experimentId = treatment.experiment.id :=
    (congrArg Prod.fst slot).trans sameExperiment
  have otherOrdinal : other.executionOrdinal =
      (store.bindingsOf treatment.experiment.id).length + 1 := congrArg Prod.snd slot
  have isBound := given.earlier other otherMem otherExperiment (by omega)
  have counted := (good.counted other otherMem).mp isBound
  rw [otherExperiment] at counted
  omega

/-! ### The plan -/

variable {request : NewExperiment γ} {draws : ExperimentDraws}

theorem mem_samples_iff :
    sample ∈ request.samples draws ↔
      ∃ pair, (1 ≤ pair ∧ pair ≤ request.sampleCount) ∧
        (sample = request.sample draws pair 0 (armsOf pair).1 ∨
          sample = request.sample draws pair 1 (armsOf pair).2) := by
  simp only [NewExperiment.samples, NewExperiment.pairRows, List.mem_flatMap, List.mem_range'_1,
    List.mem_cons, List.not_mem_nil, or_false]
  constructor
  · rintro ⟨pair, bounds, which⟩
    exact ⟨pair, ⟨bounds.1, by omega⟩, which⟩
  · rintro ⟨pair, bounds, which⟩
    exact ⟨pair, ⟨bounds.1, by omega⟩, which⟩

/-- A new sample is one of the new experiment, and unbound. -/
theorem of_new (isNew : sample ∈ request.samples draws) :
    sample.experimentId = draws.experimentId ∧ sample.merchantId = request.merchantId ∧
      (1 ≤ sample.executionOrdinal ∧ sample.executionOrdinal ≤ 2 * request.sampleCount) ∧
      sample.runId = none := by
  rcases mem_samples_iff.mp isNew with ⟨pair, bounds, rfl | rfl⟩
  · refine ⟨rfl, rfl, ?_, rfl⟩
    simp only [NewExperiment.sample]
    omega
  · refine ⟨rfl, rfl, ?_, rfl⟩
    simp only [NewExperiment.sample]
    omega

/-- No sample that was there is one of a new experiment. -/
theorem PlanHolds.ne_of_new {experiments : Table (CompilerImpactExperiment γ)}
    (plan : PlanHolds store)
    (newExperiment : store.experiments.insert? (request.row draws) = some experiments)
    (isOld : sample ∈ store.samples) : sample.experimentId ≠ draws.experimentId := by
  rcases plan.filed sample isOld with ⟨experiment, experimentMem, sameId, _⟩
  rw [← sameId]
  exact (Table.insert?_eq_some_iff.mp newExperiment).1 experiment experimentMem

/-- A plan holds after the samples of a new experiment have been added. -/
theorem PlanHolds.create {experiments : Table (CompilerImpactExperiment γ)}
    {samples : Table CompilerImpactSample} (plan : PlanHolds store)
    (newExperiment : store.experiments.insert? (request.row draws) = some experiments)
    (newSamples : store.samples.insertAll? (request.samples draws) = some samples) :
    PlanHolds { store with experiments := experiments, samples := samples } := by
  have member : ∀ sample, sample ∈ samples ↔
      sample ∈ store.samples ∨ sample ∈ request.samples draws :=
    fun _ => Table.mem_insertAll?_iff newSamples
  constructor
  · intro first firstMem second secondMem sameSlot
    have sameExperiment : first.experimentId = second.experimentId := congrArg Prod.fst sameSlot
    rcases (member first).mp firstMem with firstOld | firstNew <;>
      rcases (member second).mp secondMem with secondOld | secondNew
    · exact plan.slots first firstOld second secondOld sameSlot
    · exact absurd (sameExperiment.trans (of_new secondNew).1)
        (plan.ne_of_new newExperiment firstOld)
    · exact absurd (sameExperiment.symm.trans (of_new firstNew).1)
        (plan.ne_of_new newExperiment secondOld)
    · have sameOrdinal : first.executionOrdinal = second.executionOrdinal :=
        congrArg Prod.snd sameSlot
      rcases mem_samples_iff.mp firstNew with ⟨pair, bounds, rfl | rfl⟩ <;>
        rcases mem_samples_iff.mp secondNew with ⟨other, otherBounds, rfl | rfl⟩ <;>
          simp only [NewExperiment.sample] at sameOrdinal
      · obtain rfl : pair = other := by omega
        rfl
      · omega
      · omega
      · obtain rfl : pair = other := by omega
        rfl
  · intro sample isMember
    rcases (member sample).mp isMember with isOld | isNew
    · rcases plan.filed sample isOld with ⟨experiment, experimentMem, filed⟩
      exact ⟨experiment, (Table.mem_insert?_iff newExperiment).mpr (Or.inl experimentMem), filed⟩
    · rcases of_new isNew with ⟨ofExperiment, ofMerchant, within, _⟩
      exact ⟨request.row draws, (Table.mem_insert?_iff newExperiment).mpr (Or.inr rfl),
        ofExperiment.symm, ofMerchant.symm, within⟩
  · intro experiment isMember ordinal positive within
    rcases (Table.mem_insert?_iff newExperiment).mp isMember with isOld | rfl
    · rcases plan.complete experiment isOld ordinal positive within with ⟨sample, isMember, slot⟩
      exact ⟨sample, (member sample).mpr (Or.inl isMember), slot⟩
    · have countEq : (request.row draws).sampleCount = request.sampleCount := rfl
      have pairBounds : 1 ≤ pairOf ordinal ∧ pairOf ordinal ≤ request.sampleCount := by
        unfold pairOf
        omega
      by_cases isFirst : ordinal % 2 = 1
      · refine ⟨request.sample draws (pairOf ordinal) 0 (armsOf (pairOf ordinal)).1,
          (member _).mpr (Or.inr (mem_samples_iff.mpr ⟨_, pairBounds, Or.inl rfl⟩)), ?_⟩
        refine Prod.ext rfl ?_
        simp only [CompilerImpactSample.slot, NewExperiment.sample, pairOf]
        omega
      · refine ⟨request.sample draws (pairOf ordinal) 1 (armsOf (pairOf ordinal)).2,
          (member _).mpr (Or.inr (mem_samples_iff.mpr ⟨_, pairBounds, Or.inr rfl⟩)), ?_⟩
        refine Prod.ext rfl ?_
        simp only [CompilerImpactSample.slot, NewExperiment.sample, pairOf]
        omega

/-- Experiments are named apart. -/
theorem eq_of_experimentId {first second : CompilerImpactExperiment γ}
    (firstMem : first ∈ store.experiments) (secondMem : second ∈ store.experiments)
    (same : first.id = second.id) : first = second :=
  Table.eq_of_key_eq firstMem secondMem same

theorem bindingsOf_append (binding : CompilerImpactSample × Uuid) (experimentId : Uuid) :
    { store with bindings := store.bindings ++ [binding] }.bindingsOf experimentId =
      store.bindingsOf experimentId ++
        if binding.1.experimentId = experimentId then [binding] else [] := by
  simp only [ExperimentStore.bindingsOf, List.filter_append, List.filter_cons, List.filter_nil,
    decide_eq_true_eq]

/-- A new experiment keeps what is bound. -/
theorem BindingsHold.create {experiments : Table (CompilerImpactExperiment γ)}
    {samples : Table CompilerImpactSample} (good : ExperimentsGood store)
    (newExperiment : store.experiments.insert? (request.row draws) = some experiments)
    (newSamples : store.samples.insertAll? (request.samples draws) = some samples) :
    BindingsHold { store with experiments := experiments, samples := samples } := by
  have member : ∀ sample, sample ∈ samples ↔
      sample ∈ store.samples ∨ sample ∈ request.samples draws :=
    fun _ => Table.mem_insertAll?_iff newSamples
  have old : ∀ sample ∈ samples, ∀ runId, sample.runId = some runId → sample ∈ store.samples := by
    intro sample isMember runId isBound
    rcases (member sample).mp isMember with isOld | isNew
    · exact isOld
    · rw [(of_new isNew).2.2.2] at isBound
      cases isBound
  have notNew : ∀ sample ∈ store.samples, sample.experimentId ≠ draws.experimentId :=
    fun _ => good.ne_of_new newExperiment
  constructor
  · exact good.ordered
  · intro sample isMember
    rcases (member sample).mp isMember with isOld | isNew
    · exact good.counted sample isOld
    · rcases of_new isNew with ⟨ofNew, _, ⟨positive, _⟩, unbound⟩
      have noneBound : store.bindingsOf sample.experimentId = [] := by
        rw [ExperimentStore.bindingsOf, List.filter_eq_nil_iff]
        intro binding isBinding
        have ofOld : binding.1.experimentId ≠ draws.experimentId :=
          notNew { binding.1 with runId := some binding.2 } (good.stored binding isBinding)
        rw [ofNew, decide_eq_true_eq]
        exact ofOld
      change _ ↔ _ ≤ (store.bindingsOf sample.experimentId).length
      rw [unbound, noneBound]
      simp
      omega
  · exact fun binding isBinding => (member _).mpr (Or.inl (good.stored binding isBinding))
  · exact fun sample isMember runId isBound =>
      good.logged sample (old sample isMember runId isBound) runId isBound
  · intro first firstMem second secondMem runId firstBound secondBound
    exact good.oneSample first (old first firstMem runId firstBound) second
      (old second secondMem runId secondBound) runId firstBound secondBound
  · intro sample isMember runId isBound experiment experimentMem sameId
    have isOld := old sample isMember runId isBound
    rcases (Table.mem_insert?_iff newExperiment).mp experimentMem with earlier | rfl
    · exact good.bound sample isOld runId isBound experiment earlier sameId
    · exact absurd sameId.symm (notNew sample isOld)
  · intro first firstMem second secondMem same firstRun firstRunMem secondRun secondRunMem
      firstBound secondBound
    exact good.samePins first (old first firstMem _ firstBound) second
      (old second secondMem _ secondBound) same firstRun firstRunMem secondRun secondRunMem
      firstBound secondBound

/-- The rows after a sample has been bound. -/
theorem mem_bound_iff (stored : treatment.sample ∈ store.samples) :
    sample ∈ store.samples.set { treatment.sample with runId := some runId } ↔
      sample = { treatment.sample with runId := some runId } ∨
        sample ∈ store.samples ∧ sample.id ≠ treatment.sample.id :=
  Table.mem_set_iff stored rfl

/-- Binding a sample keeps its plan. -/
theorem PlanHolds.bind (plan : PlanHolds store) (stored : treatment.sample ∈ store.samples)
    (bindings : List (CompilerImpactSample × Uuid)) (runId : Uuid) :
    PlanHolds
      { store with
        samples := store.samples.set { treatment.sample with runId := some runId }
        bindings := bindings } := by
  -- Every row has an earlier one with the same columns, up to the run.
  have earlier : ∀ sample ∈ store.samples.set { treatment.sample with runId := some runId },
      ∃ old ∈ store.samples, old.id = sample.id ∧ old.slot = sample.slot ∧
        old.merchantId = sample.merchantId := by
    intro sample member
    rcases (mem_bound_iff stored).mp member with rfl | ⟨isOld, _⟩
    · exact ⟨treatment.sample, stored, rfl, rfl, rfl⟩
    · exact ⟨sample, isOld, rfl, rfl, rfl⟩
  constructor
  · intro first firstMem second secondMem sameSlot
    rcases earlier first firstMem with ⟨firstOld, firstOldMem, firstId, firstSlot, _⟩
    rcases earlier second secondMem with ⟨secondOld, secondOldMem, secondId, secondSlot, _⟩
    have sameOld := plan.slots firstOld firstOldMem secondOld secondOldMem
      ((firstSlot.trans sameSlot).trans secondSlot.symm)
    exact Table.eq_of_key_eq firstMem secondMem
      ((firstId.symm.trans (congrArg CompilerImpactSample.id sameOld)).trans secondId)
  · intro sample member
    rcases earlier sample member with ⟨old, oldMem, _, sameSlot, ofMerchant⟩
    have sameExperiment : old.experimentId = sample.experimentId := congrArg Prod.fst sameSlot
    have sameOrdinal : old.executionOrdinal = sample.executionOrdinal := congrArg Prod.snd sameSlot
    rcases plan.filed old oldMem with ⟨experiment, experimentMem, sameId, merchant, positive, within⟩
    exact ⟨experiment, experimentMem, sameId.trans sameExperiment, merchant.trans ofMerchant,
      sameOrdinal ▸ positive, sameOrdinal ▸ within⟩
  · intro experiment experimentMem ordinal positive within
    rcases plan.complete experiment experimentMem ordinal positive within with
      ⟨sample, member, slot⟩
    by_cases isBound : sample.id = treatment.sample.id
    · rw [Table.eq_of_key_eq member stored isBound] at slot
      exact ⟨_, (mem_bound_iff stored).mpr (Or.inl rfl), slot⟩
    · exact ⟨sample, (mem_bound_iff stored).mpr (Or.inr ⟨member, isBound⟩), slot⟩

/-- Binding the next sample keeps what is bound. -/
theorem BindingsHold.bind (good : ExperimentsGood store) (given : Given store treatment)
    (stored : treatment.sample ∈ store.samples) (read : RunRead store treatment run)
    (pins : PinsMatch store treatment run)
    (unused : ∀ other ∈ store.samples, other.runId ≠ some run.id) :
    BindingsHold
      { store with
        samples := store.samples.set { treatment.sample with runId := some run.id }
        bindings := store.bindings ++ [(treatment.sample, run.id)] } := by
  have isNext := next_of_given good given stored
  have ofExperiment := given.ofExperiment
  have isMatch := read.valid pins.1
  rcases read.stored with ⟨storedRun, storedRunMem, status, storedRunEq⟩
  have storedRunId : storedRun.id = run.id := by rw [storedRunEq]
  have storedRunPins : storedRun.pins = run.pins := by rw [storedRunEq]; rfl
  have storedMatch : RunMatches treatment.experiment treatment.sample storedRun := by
    rw [storedRunEq]
    exact isMatch.move status
  have lengthOf : ∀ experimentId,
      ({ store with
        samples := store.samples.set { treatment.sample with runId := some run.id }
        bindings := store.bindings ++ [(treatment.sample, run.id)] } :
          ExperimentStore γ).bindingsOf experimentId =
        store.bindingsOf experimentId ++
          if treatment.experiment.id = experimentId then [(treatment.sample, run.id)] else [] := by
    intro experimentId
    rw [← ofExperiment]
    exact bindingsOf_append (treatment.sample, run.id) experimentId
  constructor
  · intro experimentId
    rw [lengthOf]
    split
    · next isOwn =>
        subst isOwn
        rw [List.map_append, good.ordered, List.length_append, List.length_singleton,
          List.range'_concat, List.map_singleton, isNext, Nat.add_comm]
        simp
    · rw [List.append_nil]
      exact good.ordered experimentId
  · intro sample member
    rw [lengthOf]
    rcases (mem_bound_iff stored).mp member with rfl | ⟨isOld, isOther⟩
    · rw [if_pos ofExperiment.symm, List.length_append, List.length_singleton]
      simp only [Option.isSome_some, true_iff]
      rw [ofExperiment]
      exact le_of_eq isNext
    · rw [good.counted sample isOld]
      split
      · next isOwn =>
          have notNext : sample.executionOrdinal ≠ treatment.sample.executionOrdinal := by
            intro same
            apply isOther
            apply congrArg CompilerImpactSample.id
            apply good.slots sample isOld treatment.sample stored
            exact Prod.ext (isOwn.symm.trans ofExperiment.symm) same
          rw [List.length_append, List.length_singleton, ← isOwn]
          omega
      · rw [List.append_nil]
  · intro binding member
    rcases List.mem_append.mp member with earlier | isNew
    · refine (mem_bound_iff stored).mpr (Or.inr ⟨good.stored binding earlier, ?_⟩)
      intro same
      have sameRow := Table.eq_of_key_eq (good.stored binding earlier) stored same
      have isBound := congrArg CompilerImpactSample.runId sameRow
      rw [given.unbound] at isBound
      cases isBound
    · rw [List.mem_singleton.mp isNew]
      exact (mem_bound_iff stored).mpr (Or.inl rfl)
  · intro sample member runId isBound
    rcases (mem_bound_iff stored).mp member with rfl | ⟨isOld, _⟩
    · exact ⟨(treatment.sample, run.id), List.mem_append_right _ (List.mem_singleton_self _), rfl⟩
    · rcases good.logged sample isOld runId isBound with ⟨binding, isBinding, sampleEq⟩
      exact ⟨binding, List.mem_append_left _ isBinding, sampleEq⟩
  · intro first firstMem second secondMem runId firstBound secondBound
    rcases (mem_bound_iff stored).mp firstMem with rfl | ⟨firstOld, _⟩ <;>
      rcases (mem_bound_iff stored).mp secondMem with rfl | ⟨secondOld, _⟩
    · rfl
    · cases firstBound
      exact absurd secondBound (unused second secondOld)
    · cases secondBound
      exact absurd firstBound (unused first firstOld)
    · exact good.oneSample first firstOld second secondOld runId firstBound secondBound
  · intro sample member runId isBound experiment experimentMem sameId
    rcases (mem_bound_iff stored).mp member with rfl | ⟨isOld, _⟩
    · have same : experiment = treatment.experiment :=
        eq_of_experimentId experimentMem given.experiment (sameId.trans ofExperiment)
      cases isBound
      rw [same]
      exact ⟨given.valid, storedRun, storedRunMem, storedRunId, storedMatch.bind (some run.id)⟩
    · exact good.bound sample isOld runId isBound experiment experimentMem sameId
  · intro first firstMem second secondMem same firstRun firstRunMem secondRun secondRunMem
      firstBound secondBound
    have ownPins : ∀ other ∈ store.runs, some run.id = some other.id → other.pins = run.pins := by
      intro other otherMem isOwn
      have sameRow : storedRun = other :=
        Table.eq_of_key_eq storedRunMem otherMem (storedRunId.trans (Option.some.inj isOwn))
      rw [← sameRow]
      exact storedRunPins
    rcases (mem_bound_iff stored).mp firstMem with rfl | ⟨firstOld, _⟩ <;>
      rcases (mem_bound_iff stored).mp secondMem with rfl | ⟨secondOld, _⟩
    · exact (ownPins firstRun firstRunMem firstBound).trans
        (ownPins secondRun secondRunMem secondBound).symm
    · exact (ownPins firstRun firstRunMem firstBound).trans
        (pins.2 second secondOld (same.symm.trans ofExperiment) secondRun secondRunMem
          secondBound).symm
    · exact (pins.2 first firstOld (same.trans ofExperiment) firstRun firstRunMem
        firstBound).trans (ownPins secondRun secondRunMem secondBound).symm
    · exact good.samePins first firstOld second secondOld same firstRun firstRunMem secondRun
        secondRunMem firstBound secondBound

/-- A run that a sample is bound to is among the runs, so its pins stay. -/
theorem ExperimentsGood.earlierRun {runs : Table (ComparedRun γ)} (good : ExperimentsGood store)
    (stay : RunsStay store.runs runs) {later : ComparedRun γ} (member : sample ∈ store.samples)
    (laterMem : later ∈ runs) (isBound : sample.runId = some later.id) :
    ∃ run ∈ store.runs, run.id = later.id ∧ later.pins = run.pins := by
  rcases good.filed sample member with ⟨experiment, experimentMem, sameId, _⟩
  rcases (good.bound sample member later.id isBound experiment experimentMem sameId).2 with
    ⟨run, runMem, sameRun, _⟩
  exact ⟨run, runMem, sameRun, stay.pins runMem laterMem sameRun⟩

theorem BindingsHold.ran {runs : Table (ComparedRun γ)} (good : ExperimentsGood store)
    (stay : RunsStay store.runs runs) : BindingsHold { store with runs := runs } := by
  refine ⟨good.ordered, good.counted, good.stored, good.logged, good.oneSample, ?_, ?_⟩
  · intro sample member runId isBound experiment experimentMem sameId
    rcases good.bound sample member runId isBound experiment experimentMem sameId with ⟨valid, found⟩
    exact ⟨valid, stay.found found⟩
  · intro first firstMem second secondMem same firstRun firstRunMem secondRun secondRunMem
      firstBound secondBound
    rcases good.earlierRun stay firstMem firstRunMem firstBound with
      ⟨firstOld, firstOldMem, firstId, firstPins⟩
    rcases good.earlierRun stay secondMem secondRunMem secondBound with
      ⟨secondOld, secondOldMem, secondId, secondPins⟩
    rw [firstPins, secondPins]
    exact good.samePins first firstMem second secondMem same firstOld firstOldMem secondOld
      secondOldMem (by rw [firstBound, firstId]) (by rw [secondBound, secondId])

/-- What holds of the store is kept by every step. -/
theorem ExperimentsGood.move (good : ExperimentsGood store)
    (moves : ExperimentMove store locked final) : ExperimentsGood final := by
  cases moves with
  | refused refusals =>
      exact ⟨⟨good.slots, good.filed, good.complete⟩, ⟨good.ordered, good.counted, good.stored,
        good.logged, good.oneSample, good.bound, good.samePins⟩⟩
  | created newExperiment newSamples =>
      exact ⟨good.toPlanHolds.create newExperiment newSamples,
        .create good newExperiment newSamples⟩
  | bound given stored read pins unused =>
      exact ⟨good.toPlanHolds.bind stored _ _, .bind good given stored read pins unused⟩
  | ran stay => exact ⟨⟨good.slots, good.filed, good.complete⟩, .ran good stay⟩

/-- A sample that is bound stays as it is. -/
theorem bound_of_move (moves : ExperimentMove store locked final)
    (member : sample ∈ store.samples) (isBound : sample.runId = some runId) :
    sample ∈ final.samples := by
  cases moves with
  | refused refusals => exact member
  | created newExperiment newSamples =>
      exact (Table.mem_insertAll?_iff newSamples).mpr (Or.inl member)
  | bound given stored read pins unused =>
      refine (mem_bound_iff stored).mpr (Or.inr ⟨member, ?_⟩)
      intro same
      rw [Table.eq_of_key_eq member stored same, given.unbound] at isBound
      cases isBound
  | ran stay => exact member

/-! ## What a client relies on -/

/-- A sample stays, whether it is bound or not. -/
theorem stays_of_move (moves : ExperimentMove store locked final)
    (member : sample ∈ store.samples) :
    ∃ runId, { sample with runId := runId } ∈ final.samples := by
  cases moves with
  | refused refusals => exact ⟨sample.runId, member⟩
  | created newExperiment newSamples =>
      exact ⟨sample.runId, (Table.mem_insertAll?_iff newSamples).mpr (Or.inl member)⟩
  | @bound other run given stored read pins unused =>
      by_cases same : sample.id = other.sample.id
      · refine ⟨some run.id, (mem_bound_iff stored).mpr (Or.inl ?_)⟩
        rw [Table.eq_of_key_eq member stored same]
      · exact ⟨sample.runId, (mem_bound_iff stored).mpr (Or.inr ⟨member, same⟩)⟩
  | ran stay => exact ⟨sample.runId, member⟩

/-- What a client was given stays given. -/
theorem Given.move (given : Given store treatment)
    (moves : ExperimentMove store locked final) : Given final treatment := by
  have bound : ∀ other ∈ store.samples, other.runId.isSome = true → other ∈ final.samples := by
    intro other member isBound
    rcases Option.isSome_iff_exists.mp isBound with ⟨runId, runEq⟩
    exact bound_of_move moves member runEq
  rcases given.sample with ⟨runId, member⟩
  have stays := stays_of_move moves member
  cases moves with
  | refused refusals =>
      exact ⟨given.experiment, stays, given.unbound, given.ofExperiment, given.valid, given.earlier⟩
  | created newExperiment newSamples =>
      refine ⟨(Table.mem_insert?_iff newExperiment).mpr (Or.inl given.experiment), stays,
        given.unbound, given.ofExperiment, given.valid, ?_⟩
      intro other otherMem ofExperiment earlier
      rcases (Table.mem_insertAll?_iff newSamples).mp otherMem with isOld | isNew
      · exact given.earlier other isOld ofExperiment earlier
      · have fresh := (Table.insert?_eq_some_iff.mp newExperiment).1 _ given.experiment
        exact absurd (ofExperiment.symm.trans (of_new isNew).1) fresh
  | bound otherGiven stored read pins unused =>
      refine ⟨given.experiment, stays, given.unbound, given.ofExperiment, given.valid, ?_⟩
      intro other otherMem ofExperiment earlier
      rcases (mem_bound_iff stored).mp otherMem with rfl | ⟨isOld, _⟩
      · rfl
      · exact given.earlier other isOld ofExperiment earlier
  | ran stay =>
      exact ⟨given.experiment, stays, given.unbound, given.ofExperiment, given.valid, given.earlier⟩

theorem Given.refuse (given : Given store treatment) (sampleId runId : Uuid) (failure : Failure) :
    Given (store.refuse sampleId runId failure) treatment :=
  ⟨given.experiment, given.sample, given.unbound, given.ofExperiment, given.valid, given.earlier⟩

/-- A row that a client has locked stays unbound until the client binds it. -/
theorem locked_of_move (moves : ExperimentMove store locked final)
    (stored : treatment.sample ∈ store.samples)
    (isOther : locked ≠ some treatment.sample.id) : treatment.sample ∈ final.samples := by
  cases moves with
  | refused refusals => exact stored
  | created newExperiment newSamples =>
      exact (Table.mem_insertAll?_iff newSamples).mpr (Or.inl stored)
  | bound given otherStored read pins unused =>
      refine (mem_bound_iff otherStored).mpr (Or.inr ⟨stored, ?_⟩)
      exact fun same => isOther (congrArg some same.symm)
  | ran stay => exact stored

theorem RunRead.move (read : RunRead store treatment run)
    (moves : ExperimentMove store locked final) : RunRead final treatment run := by
  cases moves with
  | refused | created | bound => exact ⟨read.stored, read.valid⟩
  | ran stay =>
      rcases read.stored with ⟨stored, storedMem, status, rfl⟩
      rcases stay _ storedMem with ⟨later, laterMem, laterStatus, rfl⟩
      exact ⟨⟨_, laterMem, laterStatus, rfl⟩, read.valid⟩

/-- The pins that a client has compared under its lock stay those of all runs that are bound:
nobody else can bind a run to its experiment. -/
theorem PinsMatch.move (good : ExperimentsGood store) (given : Given store treatment)
    (stored : treatment.sample ∈ store.samples) (pins : PinsMatch store treatment run)
    (moves : ExperimentMove store locked final) (isOther : locked ≠ some treatment.sample.id) :
    PinsMatch final treatment run := by
  refine ⟨pins.1, ?_⟩
  cases moves with
  | refused refusals => exact pins.2
  | created newExperiment newSamples =>
      intro sample member ofExperiment other otherMem isBound
      rcases (Table.mem_insertAll?_iff newSamples).mp member with isOld | isNew
      · exact pins.2 sample isOld ofExperiment other otherMem isBound
      · rw [(of_new isNew).2.2.2] at isBound
        cases isBound
  | bound otherGiven otherStored read otherPins unused =>
      intro sample member ofExperiment other otherMem isBound
      rcases (mem_bound_iff otherStored).mp member with rfl | ⟨isOld, _⟩
      · have same := eq_of_given good otherGiven given otherStored stored
          (otherGiven.ofExperiment.symm.trans ofExperiment)
        exact absurd (congrArg (fun row => some (CompilerImpactSample.id row)) same) isOther
      · exact pins.2 sample isOld ofExperiment other otherMem isBound
  | ran stay =>
      intro sample member ofExperiment later laterMem isBound
      rcases good.earlierRun stay member laterMem isBound with
        ⟨earlier, earlierMem, sameRun, samePins⟩
      rw [samePins]
      exact pins.2 sample member ofExperiment earlier earlierMem (by rw [isBound, sameRun])

/-! ## Clients keep what they rely on -/

/-- What a client relies on before its next step. -/
def ExperimentStage.Relies (store : ExperimentStore γ) : ExperimentStage γ → Prop
  | .creating _ _ _ | .choosing _ => True
  | .treating treatment => Given store treatment
  | .locked treatment _ _ => Given store treatment ∧ treatment.sample ∈ store.samples
  | .checked treatment run =>
      Given store treatment ∧ treatment.sample ∈ store.samples ∧ RunRead store treatment run
  | .pinned treatment run =>
      Given store treatment ∧ treatment.sample ∈ store.samples ∧ RunRead store treatment run ∧
        PinsMatch store treatment run

/-- What a client relies on stays, whatever is done that does not bind the row it has locked. -/
theorem experimentRelies_of_move (good : ExperimentsGood store) (moves : ExperimentMove store locked final)
    {stage : ExperimentStage γ} (relies : stage.Relies store)
    (isOther : ∀ sampleId, locked = some sampleId → stage.lockedSample ≠ some sampleId) :
    stage.Relies final := by
  have notLocked : ∀ sample : CompilerImpactSample, stage.lockedSample = some sample.id →
      locked ≠ some sample.id :=
    fun sample isLocked same => isOther sample.id same isLocked
  cases stage with
  | creating request draws facts => trivial
  | choosing address => trivial
  | treating treatment => exact Given.move relies moves
  | locked treatment runId heldStatus =>
      exact ⟨relies.1.move moves, locked_of_move moves relies.2 (notLocked _ rfl)⟩
  | checked treatment run =>
      exact ⟨relies.1.move moves, locked_of_move moves relies.2.1 (notLocked _ rfl),
        relies.2.2.move moves⟩
  | pinned treatment run =>
      exact ⟨relies.1.move moves, locked_of_move moves relies.2.1 (notLocked _ rfl),
        relies.2.2.1.move moves,
        relies.2.2.2.move good relies.1 relies.2.1 moves (notLocked _ rfl)⟩

/-- What is chosen is a valid sample, before which all of its experiment are bound. -/
theorem given_of_nextTreatment (good : ExperimentsGood store) {address : ExperimentAddress}
    (chosen : nextTreatment address store = .ok treatment) : Given store treatment := by
  unfold nextTreatment at chosen
  split at chosen
  · cases chosen
  · next experiment found =>
      split at chosen
      · cases chosen
      · next sample isFirst =>
          split at chosen
          · cases chosen
          · next valid =>
              cases chosen
              simp only [ExperimentStore.experiment?, Option.filter_eq_some_iff,
                Table.get?_eq_some_iff, decide_eq_true_eq] at found
              rcases found with ⟨⟨experimentMem, sameId⟩, sameMerchant⟩
              have unbound : ∀ other, other ∈ store.unbound address ↔ other ∈ store.samples ∧
                  (other.experimentId = address.experimentId ∧
                    other.merchantId = address.merchantId) ∧ other.runId = none := by
                intro other
                simp only [ExperimentStore.unbound, List.mem_filter, Bool.and_eq_true,
                  decide_eq_true_eq, Option.isNone_iff_eq_none]
                rfl
              rcases (unbound sample).mp (List.argmin_mem isFirst) with
                ⟨member, ⟨ofExperiment, _⟩, isUnbound⟩
              refine ⟨experimentMem, ⟨none, ?_⟩, isUnbound, ofExperiment.trans sameId.symm,
                valid, ?_⟩
              · rw [← isUnbound]
                exact member
              · intro other otherMem otherOf earlier
                by_contra notBound
                have isNone : other.runId = none := by simpa using notBound
                rcases good.filed other otherMem with ⟨filing, filingMem, filingId, filed, _⟩
                have same : filing = experiment :=
                  eq_of_experimentId filingMem experimentMem (filingId.trans otherOf)
                rw [same] at filed
                have isCandidate := (unbound other).mpr
                  ⟨otherMem, ⟨otherOf.trans sameId, filed.symm.trans sameMerchant⟩, isNone⟩
                exact absurd (List.le_of_mem_argmin isCandidate isFirst) (not_le.mpr earlier)

/-- A row that can be locked is the sample that was given, and it is still unbound. -/
theorem stored_of_lockSample (given : Given store treatment)
    (isLocked : lockSample treatment store = .ok sample) : treatment.sample ∈ store.samples := by
  unfold lockSample at isLocked
  split at isLocked
  · cases isLocked
  · next row found =>
      simp only [Option.filter_eq_some_iff, Table.get?_eq_some_iff, Bool.and_eq_true,
        decide_eq_true_eq, Option.isNone_iff_eq_none] at found
      rcases found with ⟨⟨member, sameId⟩, _, isUnbound⟩
      rcases given.sample with ⟨runId, stored⟩
      have same := Table.eq_of_key_eq stored member sameId.symm
      have isNone : runId = none := (congrArg CompilerImpactSample.runId same).trans isUnbound
      have whole : treatment.sample = { treatment.sample with runId := runId } := by
        rw [isNone, ← given.unbound]
      rw [whole]
      exact stored

/-- A run that was read and validated has what the experiment compares. -/
theorem read_of_validated [DecidableEq γ] (given : Given store treatment)
    {heldStatus : Option BenchmarkRunStatus}
    (isRead : readComparedRun treatment runId heldStatus store = .ok run)
    (valid : validateRunBinding treatment run = .ok ()) : RunRead store treatment run := by
  refine ⟨?_, runMatches_of_validated given.valid valid⟩
  unfold readComparedRun at isRead
  split at isRead
  · cases isRead
  · next stored found =>
      simp only [Option.filter_eq_some_iff, Table.get?_eq_some_iff] at found
      cases isRead
      exact ⟨stored, found.1.1, stored.status, rfl⟩

/-- A row that a client still holds unbound is written with a run that nothing else has. -/
theorem bindSample_eq_ok (stored : treatment.sample ∈ store.samples)
    (isBound : bindSample treatment.sample runId store = .ok final) :
    (∀ other ∈ store.samples, other.runId ≠ some runId) ∧
      final =
        { store with
          samples := store.samples.set { treatment.sample with runId := some runId }
          bindings := store.bindings ++ [(treatment.sample, runId)] } := by
  have found : store.samples.get? treatment.sample.id = some treatment.sample :=
    Table.get?_eq_some_iff.mpr ⟨stored, rfl⟩
  unfold bindSample at isBound
  simp only [found] at isBound
  split at isBound
  · cases isBound
  · split at isBound
    · cases isBound
    · next unused =>
        cases isBound
        refine ⟨?_, rfl⟩
        intro other member same
        exact unused (List.any_eq_true.mpr ⟨other, member, decide_eq_true same⟩)

theorem createExperiment_eq_ok {facts : CreationFacts}
    (isCreated : createExperiment request draws facts store = .ok final) :
    ∃ experiments samples,
      store.experiments.insert? (request.row draws) = some experiments ∧
        store.samples.insertAll? (request.samples draws) = some samples ∧
          final = { store with experiments := experiments, samples := samples } := by
  unfold createExperiment at isCreated
  split at isCreated
  · cases isCreated
  · split at isCreated
    · cases isCreated
    · split at isCreated
      · next experiments samples newExperiment newSamples =>
          cases isCreated
          exact ⟨experiments, samples, newExperiment, newSamples, rfl⟩
      · cases isCreated

/-- A step of a client binds no other row than the one it has locked. -/
theorem move_of_act [DecidableEq γ] (stage : ExperimentStage γ) (input : ExperimentInput)
    (relies : stage.Relies store) :
    ExperimentMove store stage.lockedSample (stage.act input store).1 := by
  cases stage with
  | creating request draws facts =>
      simp only [ExperimentStage.act]
      split
      · exact .refused store.refusals
      · next isCreated =>
          rcases createExperiment_eq_ok isCreated with
            ⟨experiments, samples, newExperiment, newSamples, rfl⟩
          exact .created newExperiment newSamples
  | choosing address =>
      simp only [ExperimentStage.act]
      split <;> exact .refused store.refusals
  | treating treatment =>
      simp only [ExperimentStage.act]
      split
      · exact .refused _
      · exact .refused store.refusals
  | locked treatment runId heldStatus =>
      simp only [ExperimentStage.act]
      split
      · exact .refused _
      · split
        · exact .refused _
        · exact .refused store.refusals
  | checked treatment run =>
      simp only [ExperimentStage.act]
      split
      · exact .refused _
      · exact .refused store.refusals
  | pinned treatment run =>
      simp only [ExperimentStage.act]
      split
      · exact .refused _
      · next isBound =>
          rcases bindSample_eq_ok relies.2.1 isBound with ⟨unused, rfl⟩
          exact .bound relies.1 relies.2.1 relies.2.2.1 relies.2.2.2 unused

/-- A client comes to its next step with what that step relies on. -/
theorem experimentRelies_of_act [DecidableEq γ] (good : ExperimentsGood store) (stage : ExperimentStage γ)
    (input : ExperimentInput) (relies : stage.Relies store) {next : ExperimentStage γ}
    (leads : (stage.act input store).2 = some next) :
    next.Relies (stage.act input store).1 := by
  cases stage with
  | creating request draws facts =>
      simp only [ExperimentStage.act] at leads
      split at leads <;> cases leads
  | choosing address =>
      simp only [ExperimentStage.act] at leads ⊢
      split at leads
      · cases leads
      · next chosen =>
          cases leads
          exact given_of_nextTreatment good chosen
  | treating treatment =>
      simp only [ExperimentStage.act] at leads ⊢
      split at leads
      · cases leads
        exact Given.refuse relies _ _ _
      · next isLocked =>
          cases leads
          exact ⟨relies, stored_of_lockSample relies isLocked⟩
  | locked treatment runId heldStatus =>
      simp only [ExperimentStage.act] at leads ⊢
      split at leads
      · cases leads
        exact relies.1.refuse _ _ _
      · next isRead =>
          split at leads
          · cases leads
            exact relies.1.refuse _ _ _
          · next valid =>
              cases leads
              exact ⟨relies.1, relies.2, read_of_validated relies.1 isRead valid⟩
  | checked treatment run =>
      simp only [ExperimentStage.act] at leads ⊢
      split at leads
      · cases leads
        exact relies.1.refuse _ _ _
      · next valid =>
          cases leads
          exact ⟨relies.1, relies.2.1, relies.2.2, validateExistingRunPins_eq_ok valid⟩
  | pinned treatment run =>
      simp only [ExperimentStage.act] at leads ⊢
      split at leads
      · cases leads
        exact relies.1.refuse _ _ _
      · next isBound =>
          cases leads
          rcases bindSample_eq_ok relies.2.1 isBound with ⟨unused, rfl⟩
          exact relies.1.move (.bound relies.1 relies.2.1 relies.2.2.1 relies.2.2.2 unused)

/-- Outside of the clients, runs are started and move from status to status. -/
theorem move_of_occurrence (event : RunOccurrence γ) :
    ExperimentMove store none (event.act store) := by
  cases event with
  | started run =>
      simp only [RunOccurrence.act]
      split
      · exact .refused store.refusals
      · next runs isNew =>
          refine .ran ?_
          intro earlier member
          exact ⟨earlier, (Table.mem_insert?_iff isNew).mpr (Or.inl member), earlier.status, rfl⟩
  | moved runId status =>
      simp only [RunOccurrence.act]
      split
      · exact .refused store.refusals
      · next run found =>
          rcases Table.get?_eq_some_iff.mp found with ⟨stored, rfl⟩
          have rows : ∀ later, later ∈ store.runs.set { run with status := status } ↔
              later = { run with status := status } ∨ later ∈ store.runs ∧ later.id ≠ run.id :=
            fun later => Table.mem_set_iff stored rfl
          refine .ran ?_
          intro earlier member
          by_cases same : earlier.id = run.id
          · obtain rfl : earlier = run := Table.eq_of_key_eq member stored same
            exact ⟨_, (rows _).mpr (Or.inl rfl), status, rfl⟩
          · exact ⟨earlier, (rows _).mpr (Or.inr ⟨member, same⟩), earlier.status, rfl⟩

/-- Before anything is bound, everything holds of what is bound. -/
theorem good_of_unstarted (unstarted : Unstarted store) : ExperimentsGood store := by
  have noBinding : ∀ experimentId, store.bindingsOf experimentId = [] := by
    intro experimentId
    rw [ExperimentStore.bindingsOf, unstarted.unlogged, List.filter_nil]
  have noRun : ∀ sample ∈ store.samples, ∀ runId, sample.runId ≠ some runId := by
    intro sample member runId isBound
    rw [unstarted.unbound sample member] at isBound
    cases isBound
  refine ⟨unstarted.toPlanHolds, ?_⟩
  constructor
  · intro experimentId
    rw [noBinding]
    rfl
  · intro sample member
    rcases unstarted.filed sample member with ⟨_, _, _, _, positive, _⟩
    rw [unstarted.unbound sample member, noBinding, List.length_nil]
    simp only [Option.isSome_none, Bool.false_eq_true, false_iff]
    omega
  · intro binding isBinding
    rw [unstarted.unlogged] at isBinding
    cases isBinding
  · exact fun sample member runId isBound => absurd isBound (noRun sample member runId)
  · exact fun first member _ _ runId isBound _ => absurd isBound (noRun first member runId)
  · exact fun sample member runId isBound => absurd isBound (noRun sample member runId)
  · exact fun first member _ _ _ run _ _ _ isBound => absurd isBound (noRun first member run.id)

/-- What holds of every experiment of a good store. -/
theorem ExperimentsGood.paired (good : ExperimentsGood store)
    (member : experiment ∈ store.experiments) :
    Paired store experiment := by
  have ofExperiment : ∀ binding, binding ∈ store.bindingsOf experiment.id ↔
      binding ∈ store.bindings ∧ binding.1.experimentId = experiment.id := by
    intro binding
    rw [ExperimentStore.bindingsOf, List.mem_filter, decide_eq_true_eq]
  constructor
  · exact good.ordered experiment.id
  · intro isCounterbalanced known binding isBinding
    rcases (ofExperiment binding).mp isBinding with ⟨isLogged, isOf⟩
    rcases good.bound _ (good.stored binding isLogged) binding.2 rfl experiment member isOf.symm
      with ⟨valid, _⟩
    rw [validateSampleIdentity_bind] at valid
    rcases validateSampleIdentity_eq_ok valid with ⟨declared, isDeclared, kind, _⟩
    rw [known] at isDeclared
    cases isDeclared
    exact kind
  · intro sample isStored isOf runId
    constructor
    · intro isBound
      rcases good.logged sample isStored runId isBound with ⟨binding, isLogged, rfl⟩
      exact ⟨binding, (ofExperiment binding).mpr ⟨isLogged, isOf⟩, rfl, Option.some.inj isBound⟩
    · rintro ⟨binding, isBinding, sameId, rfl⟩
      have isLogged := ((ofExperiment binding).mp isBinding).1
      have same := Table.eq_of_key_eq (good.stored binding isLogged) isStored sameId
      exact (congrArg CompilerImpactSample.runId same).symm
  · intro sample isStored isOf runId isBound
    exact (good.bound sample isStored runId isBound experiment member isOf.symm).2
  · intro first firstMem second secondMem firstOf secondOf
    exact good.samePins first firstMem second secondMem (firstOf.trans secondOf.symm)

/-- A client that holds the lock of a row has not lost it: the row is unbound. -/
theorem unbound_of_locked {stage : ExperimentStage γ}
    (relies : stage.Relies store) {sampleId : Uuid} (isLocked : stage.lockedSample = some sampleId) :
    ∃ sample ∈ store.samples, sample.id = sampleId ∧ sample.runId = none := by
  cases stage with
  | creating | choosing | treating => cases isLocked
  | locked treatment runId heldStatus =>
      exact ⟨treatment.sample, relies.2, Option.some.inj isLocked, relies.1.unbound⟩
  | checked treatment run =>
      exact ⟨treatment.sample, relies.2.1, Option.some.inj isLocked, relies.1.unbound⟩
  | pinned treatment run =>
      exact ⟨treatment.sample, relies.2.1, Option.some.inj isLocked, relies.1.unbound⟩

end Moves

/-! ## The system -/

section Runs

variable [DecidableEq γ]

def experimentDiscipline (γ : Type u) :
    System.Discipline (ExperimentStore γ) (ExperimentStage γ) where
  shared := ExperimentsGood
  relies store stage := stage.Relies store
  apart first second :=
    ∀ sampleId, first.lockedSample = some sampleId → second.lockedSample ≠ some sampleId

theorem experiments_keep :
    System.Keeps (experimentSystem γ) rowLocks (experimentDiscipline γ) where
  symmetric := fun apart sampleId isSecond isFirst => apart sampleId isFirst isSecond
  enterRelies call store _ := by cases call <;> trivial
  enterApart call other := by
    intro sampleId isLocked
    cases call <;> cases isLocked
  actShared input stage store good relies := good.move (move_of_act stage input relies)
  actRelies input stage store next good relies leads := experimentRelies_of_act good stage input relies leads
  actOthers input stage store other good relies otherRelies apart :=
    experimentRelies_of_move good (move_of_act stage input relies) otherRelies apart
  actApart _ _ _ _ _ _ _ _ _ _ beside := beside
  outsideShared event store _ good := good.move (move_of_occurrence event)
  outsideOthers event store other _ good relies :=
    experimentRelies_of_move good (move_of_occurrence event) relies fun _ isLocked => by cases isLocked

variable {world : ExperimentWorld γ}

/-- A sample that is bound stays as it is in every step of the world. -/
theorem bound_of_step (obeys : System.Obeys (experimentDiscipline γ) world)
    (event : ExperimentEvent γ) (member : sample ∈ world.shared.samples)
    (isBound : sample.runId = some runId) :
    sample ∈ ((experimentSystem γ).step event world).shared.samples := by
  cases event with
  | arrive client call =>
      cases isFree : world.clients client <;> simpa only [System.step, isFree] using member
  | act client input =>
      cases busy : world.clients client with
      | none => simpa only [System.step, busy] using member
      | some stage =>
          simp only [System.step, busy]
          exact bound_of_move (move_of_act stage input (obeys.relies client stage busy)) member
            isBound
  | crash client => exact member
  | outside event => exact bound_of_move (move_of_occurrence event) member isBound

/-- Every sample that is bound in the first world is bound to the same run in the second. -/
def BoundKept (first second : ExperimentWorld γ) : Prop :=
  ∀ sample ∈ first.shared.samples, ∀ runId, sample.runId = some runId →
    sample ∈ second.shared.samples

/-- A sample that is bound stays as it is in every run. -/
theorem boundKept_of_run (obeys : System.Obeys (experimentDiscipline γ) world)
    {events : List (ExperimentEvent γ)}
    (within : Guarded (experimentSystem γ).step ((experimentSystem γ).Allowed rowLocks) world
      events) : BoundKept world (run (experimentSystem γ).step world events) := by
  have preserved : ∀ (world : ExperimentWorld γ) (event : ExperimentEvent γ),
      System.Obeys (experimentDiscipline γ) world →
        (experimentSystem γ).Allowed rowLocks world event →
          System.Obeys (experimentDiscipline γ) ((experimentSystem γ).step event world) :=
    fun _ _ obeys allowed => obeys.step experiments_keep allowed
  refine run_relation (fun _ sample member _ _ => member) ?_ preserved ?_ obeys within
  · intro first middle last early late sample member runId isBound
    exact late sample (early sample member runId isBound) runId isBound
  · intro world event obeys _ sample member runId isBound
    exact bound_of_step obeys event member isBound

/-- A client whose sample is bound meanwhile is refused, and nothing is bound. -/
theorem refused_of_bound {treatment : ExperimentTreatment γ} {store : ExperimentStore γ}
    (isBound : ∀ sample ∈ store.samples, sample.id = treatment.sample.id →
      sample.runId.isSome = true) (input : ExperimentInput) :
    (ExperimentStage.treating treatment).act input store =
      (store.refuse treatment.sample.id input.runId
        (.conflict "compiler_impact_sample_already_started" (toString treatment.sample.id)
          none none), some (.treating treatment)) := by
  have noRow : ((store.samples.get? treatment.sample.id).filter fun sample =>
      sample.experimentId = treatment.experiment.id && sample.runId.isNone) = none := by
    rw [Option.filter_eq_none_iff]
    intro sample found
    rcases Table.get?_eq_some_iff.mp found with ⟨member, sameId⟩
    rcases Option.isSome_iff_exists.mp (isBound sample member sameId) with ⟨runId, runEq⟩
    simp [runEq]
  simp only [ExperimentStage.act, lockSample, noRow]

/-- The world after some events. -/
def worldAfterEvents (start : ExperimentStore γ) (events : List (ExperimentEvent γ)) :
    ExperimentWorld γ :=
  run (experimentSystem γ).step (World.opening start) events

/-- What holds after any number of steps. -/
structure StayPaired (start : ExperimentStore γ) (events : List (ExperimentEvent γ)) : Prop where
  paired : ∀ experiment ∈ (worldAfterEvents start events).shared.experiments,
    Paired (worldAfterEvents start events).shared experiment
  oneSample : ∀ first ∈ (worldAfterEvents start events).shared.samples,
    ∀ second ∈ (worldAfterEvents start events).shared.samples, ∀ runId,
      first.runId = some runId → second.runId = some runId → first = second
  kept : ∀ earlier later, events = earlier ++ later →
    ∀ sample ∈ (worldAfterEvents start earlier).shared.samples, ∀ runId,
      sample.runId = some runId → sample ∈ (worldAfterEvents start events).shared.samples
  /-- A client that has locked a sample has lost no race for it. -/
  holds : ∀ client stage sampleId,
    (worldAfterEvents start events).clients client = some stage →
      stage.lockedSample = some sampleId →
        ∃ sample ∈ (worldAfterEvents start events).shared.samples,
          sample.id = sampleId ∧ sample.runId = none
  /-- One that has lost a race is refused, and nothing is bound. -/
  loses : ∀ client treatment input,
    (worldAfterEvents start events).clients client = some (.treating treatment) →
      (∀ sample ∈ (worldAfterEvents start events).shared.samples,
        sample.id = treatment.sample.id → sample.runId.isSome = true) →
          ((experimentSystem γ).step (.act client input) (worldAfterEvents start events)).shared =
            (worldAfterEvents start events).shared.refuse treatment.sample.id input.runId
              (.conflict "compiler_impact_sample_already_started"
                (toString treatment.sample.id) none none)

/-- Whatever the clients do, in whatever order, experiments stay paired. -/
theorem stay_paired {start : ExperimentStore γ} (unstarted : Unstarted start)
    (events : List (ExperimentEvent γ))
    (within : Guarded (experimentSystem γ).step ((experimentSystem γ).Allowed rowLocks)
      (World.opening start) events) : StayPaired start events := by
  have opening : System.Obeys (experimentDiscipline γ) (World.opening start) :=
    System.obeys_opening (good_of_unstarted unstarted)
  have obeys : System.Obeys (experimentDiscipline γ) (worldAfterEvents start events) :=
    opening.run experiments_keep within
  constructor
  · exact fun experiment member => obeys.shared.paired member
  · exact obeys.shared.oneSample
  · rintro earlier later rfl sample member runId isBound
    rcases (guarded_append_iff earlier later).mp within with ⟨withinEarlier, withinLater⟩
    have stays := boundKept_of_run (opening.run experiments_keep withinEarlier) withinLater
    rw [worldAfterEvents, run_append]
    exact stays sample member runId isBound
  · exact fun client stage sampleId busy isLocked =>
      unbound_of_locked (obeys.relies client stage busy) isLocked
  · intro client treatment input busy isBound
    have refused := refused_of_bound isBound input
    simp only [System.step, busy, experimentSystem, refused]

end Runs

section Sample

def buyerDigest : ContentHash where
  text := "sha256:c1fbba182935eaf3b1d4c6df1d665574f5afdf128d05c36c237ed35633eb634a"
  isLabelled := by decide +kernel
  length := by decide +kernel

def onePair : NewExperiment String where
  merchantId := 0
  suiteId := 1
  environmentId := 2
  sourceSnapshotId := 3
  compiledRepresentationId := 4
  buyerConfiguration := "deterministic"
  buyerConfigurationDigest := buyerDigest
  sampleCount := 1

def pairDraws : ExperimentDraws where
  experimentId := 10
  sampleId ordinal := if ordinal = 1 then 11 else 12

def sameShop : CreationFacts where
  sourceFound := true
  merchantSlug := some "techworld"
  suiteMerchantSlug := some "techworld"
  environmentMerchantId := 0
  representation :=
    some { producer := .compiler, compilerRunId := some 5, sourceSnapshotId := some 3 }
  compilerRunSource := some 3
  drift := []

def rawRun : ComparedRun String where
  id := 20
  merchantId := 0
  status := .running
  suiteId := 1
  environmentId := some 2
  agentConfiguration := some "deterministic"
  executorRevision := some buyerDigest.text
  representationId := none
  catalogHash := some "sha256:0"
  evaluatorVersion := some "1"

def noExperiments : ExperimentStore String where
  experiments := .empty
  samples := .empty
  runs := .empty

/-- A study is created, its first sample is taken, a run is started for it and bound. -/
def firstSampleBound : List (ExperimentEvent String) :=
  [.arrive 0 (.create onePair pairDraws sameShop), .act 0 { runId := 20 },
    .arrive 0 (.compare { merchantId := 0, experimentId := 10 }), .act 0 { runId := 20 },
    .outside (.started rawRun), .act 0 { runId := 20 }, .act 0 { runId := 20 },
    .act 0 { runId := 20 }, .act 0 { runId := 20 }]

theorem unstarted_noExperiments : Unstarted noExperiments where
  slots := fun _ member => absurd member (Table.not_mem_empty _)
  filed := fun _ member => absurd member (Table.not_mem_empty _)
  complete := fun _ member => absurd member (Table.not_mem_empty _)
  unbound := fun _ member => absurd member (Table.not_mem_empty _)
  unlogged := rfl

/-- The raw sample is bound to its run, and the compiled one is not bound yet. -/
theorem stay_paired_sample :
    (worldAfterEvents noExperiments firstSampleBound).shared.samples.rows.map
        (fun sample => (sample.executionOrdinal, sample.identity, sample.runId)) =
      [(1, .raw 3, some 20), (2, .compiled 4, none)] ∧
      StayPaired noExperiments firstSampleBound := by
  have within : Guarded (experimentSystem String).step
      ((experimentSystem String).Allowed rowLocks) (World.opening noExperiments)
        firstSampleBound := by
    apply System.guarded_of_alone_beside (fun _ _ => rfl)
    intro event member
    simp only [firstSampleBound, List.mem_cons, List.not_mem_nil, or_false] at member
    rcases member with rfl | rfl | rfl | rfl | rfl | rfl | rfl | rfl | rfl
    case inr.inr.inr.inr.inl => exact Or.inr ⟨_, rfl, trivial⟩
    all_goals exact Or.inl rfl
  exact ⟨by decide +kernel, stay_paired unstarted_noExperiments firstSampleBound within⟩

end Sample

end AgentRank.Benchmark
