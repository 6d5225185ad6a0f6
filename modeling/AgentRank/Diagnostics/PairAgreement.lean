import AgentRank.Diagnostics.PairedReading

/-!
# Agreement of the arms, pair by pair

A diagnosis of parity says that every completed pair agreed.  It holds where the totals that it
was judged by hide nothing: where no two pairs differ in opposite ways, and both arms of a pair
report the same missions.
-/

namespace AgentRank.Diagnostics.Experiment

open Benchmark Diagnostics Relational Store

/-- Nothing confounds the arms. -/
structure Interpretable (facts : ExperimentFacts) : Prop where
  complete : ∀ sample ∈ facts.samples, sample.completed = true
  counterbalanced : facts.pairOrder = .counterbalanced
  noOutage : ∀ sample ∈ facts.samples, sample.terminatedProviderOutages = 0
  sameModels : ∀ model,
    (∃ sample ∈ armSamples facts.samples .raw, model ∈ sample.resolvedModels) ↔
      ∃ sample ∈ armSamples facts.samples .compiled, model ∈ sample.resolvedModels
  versions : ∀ sample ∈ facts.samples, ∃ version,
    sample.agentImplementationVersion = some version ∧
      implementationDiscoveryBoundary ≤ version

/-- The arms of a completed pair. -/
structure CompletedPair (facts : ExperimentFacts) (raw compiled : ExperimentSampleFacts) :
    Prop where
  rawSample : raw ∈ facts.samples
  compiledSample : compiled ∈ facts.samples
  rawArm : raw.arm = .raw
  compiledArm : compiled.arm = .compiled
  samePair : raw.pairOrdinal = compiled.pairOrdinal
  rawCompleted : raw.completed = true
  compiledCompleted : compiled.completed = true

/-- Both arms agree on every mission, on safety and on captured demand. -/
structure ArmsAgree (raw compiled : ExperimentSampleFacts) : Prop where
  positions : ∀ key,
    (MissionOutcomeFact.lookup raw.missionOutcomes key).map MissionOutcomeFact.position =
      (MissionOutcomeFact.lookup compiled.missionOutcomes key).map MissionOutcomeFact.position
  safety : ∀ field ∈ safetyFields, ∀ first ∈ raw.metrics, ∀ second ∈ compiled.metrics,
    field.1 first = field.1 second
  captured : ∀ currency, ∀ first ∈ raw.metrics, ∀ second ∈ compiled.metrics,
    SimulatedDemandBucket.captured.amountIn first.simulatedDemand currency =
      SimulatedDemandBucket.captured.amountIn second.simulatedDemand currency

/-- What the completed samples of an arm measured. -/
def measuredOf (facts : ExperimentFacts) (arm : Arm) : List BenchmarkMetrics :=
  ((armSamples facts.samples arm).filter ExperimentSampleFacts.completed).filterMap
    ExperimentSampleFacts.metrics

/-- The missions that both arms of a pair report agree, and so do the totals. -/
structure JudgedAlike (facts : ExperimentFacts) : Prop where
  positions : ∀ raw compiled, CompletedPair facts raw compiled → ∀ key,
    ∀ first ∈ MissionOutcomeFact.lookup raw.missionOutcomes key,
      ∀ second ∈ MissionOutcomeFact.lookup compiled.missionOutcomes key,
        first.position = second.position
  safety : ∀ field ∈ safetyFields,
    ((measuredOf facts .raw).map field.1).sum = ((measuredOf facts .compiled).map field.1).sum
  currencies : ∀ currency,
    (∃ metrics ∈ measuredOf facts .raw,
      currency ∈ metrics.simulatedDemand.map SimulatedDemand.currency) ↔
        ∃ metrics ∈ measuredOf facts .compiled,
          currency ∈ metrics.simulatedDemand.map SimulatedDemand.currency
  captured : ∀ currency,
    ((measuredOf facts .raw).map fun metrics =>
        SimulatedDemandBucket.captured.amountIn metrics.simulatedDemand currency).sum =
      ((measuredOf facts .compiled).map fun metrics =>
        SimulatedDemandBucket.captured.amountIn metrics.simulatedDemand currency).sum

/-- A diagnosis that claims no more than its evidence. -/
structure ReadsPairs (facts : PairedExperiment) (engineIdentity : String) : Prop where
  interpretable : ∀ diagnosis,
    diagnoseExperiment facts.toExperimentFacts engineIdentity = .ok diagnosis →
      diagnosis.conclusion.kind = .parity ∨ diagnosis.conclusion.kind = .outcomeDifferences →
        Interpretable facts.toExperimentFacts
  parity : ∀ diagnosis,
    diagnoseExperiment facts.toExperimentFacts engineIdentity = .ok diagnosis →
      diagnosis.conclusion.kind = .parity →
        ∀ raw compiled, CompletedPair facts.toExperimentFacts raw compiled →
          ArmsAgree raw compiled
  totals : ∀ diagnosis,
    diagnoseExperiment facts.toExperimentFacts engineIdentity = .ok diagnosis →
      ∀ arm, SumOf ((armSamples facts.samples arm).filter ExperimentSampleFacts.completed)
        (diagnosis.arms.get arm).metricsTotals
  permuted : ∀ others, facts.samples.Perm others →
    diagnoseExperiment { facts.toExperimentFacts with samples := others } engineIdentity =
      diagnoseExperiment facts.toExperimentFacts engineIdentity
  exchanged : ∀ diagnosis,
    diagnoseExperiment facts.toExperimentFacts engineIdentity = .ok diagnosis →
      ∃ other,
        diagnoseExperiment facts.toExperimentFacts.exchanged engineIdentity = .ok other ∧
          Exchanged diagnosis other

variable {facts : PairedExperiment} {arms : Arms} {engineIdentity : String}

/-- What is read of an arm's aggregate. -/
structure Aggregated (facts : ExperimentFacts) (arm : Arm) (aggregate : ArmAggregate) : Prop where
  totals : SumOf ((armSamples facts.samples arm).filter ExperimentSampleFacts.completed)
    aggregate.metricsTotals
  outages : aggregate.terminatedProviderOutages =
    ((armSamples facts.samples arm).map ExperimentSampleFacts.terminatedProviderOutages).sum
  models : aggregate.resolvedModels = (KeyOrder.natural String).sortBy id
    ((armSamples facts.samples arm).flatMap ExperimentSampleFacts.resolvedModels).dedup

theorem aggregated_of_ok {facts : ExperimentFacts} {arm : Arm} {aggregate : ArmAggregate}
    (ok : aggregateArm facts arm = .ok aggregate) : Aggregated facts arm aggregate := by
  unfold aggregateArm aggregateSamples at ok
  obtain ⟨totals, summed, ok⟩ := except_bind_eq_ok_iff.mp ok
  cases ok
  rcases armTotals_cases ((armSamples facts.samples arm).filter
    ExperimentSampleFacts.completed) with ⟨-, failed⟩ | ⟨-, other, totalsOk, sums⟩
  · rw [failed] at summed
    cases summed
  · rw [totalsOk] at summed
    cases summed
    exact ⟨sums, rfl, rfl⟩

theorem aggregated_arms {facts : ExperimentFacts} (ok : aggregateArms facts = .ok arms)
    (arm : Arm) : Aggregated facts arm (arms.get arm) := by
  unfold aggregateArms at ok
  obtain ⟨raw, rawOk, ok⟩ := except_bind_eq_ok_iff.mp ok
  obtain ⟨compiled, compiledOk, ok⟩ := except_bind_eq_ok_iff.mp ok
  cases ok
  cases arm with
  | raw => exact aggregated_of_ok rawOk
  | compiled => exact aggregated_of_ok compiledOk

/-- Where every sample has metrics there are totals. -/
theorem aggregateArms_ok {facts : ExperimentFacts}
    (measured : ∀ sample ∈ facts.samples, sample.metrics ≠ none) :
    ∃ arms, aggregateArms facts = .ok arms := by
  have each (arm : Arm) : ∃ aggregate, aggregateArm facts arm = .ok aggregate := by
    unfold aggregateArm aggregateSamples
    rcases armTotals_cases ((armSamples facts.samples arm).filter
      ExperimentSampleFacts.completed) with ⟨⟨sample, member, missing⟩, -⟩ | ⟨-, totals, ok, -⟩
    · have listed := (List.mem_filter.mp (List.mem_filter.mp member).1).1
      exact absurd missing (measured sample listed)
    · simp only [ok, bind, Except.bind]
      exact ⟨_, rfl⟩
  obtain ⟨raw, rawOk⟩ := each .raw
  obtain ⟨compiled, compiledOk⟩ := each .compiled
  refine ⟨⟨raw, compiled⟩, ?_⟩
  rw [aggregateArms, rawOk, compiledOk]
  rfl

variable {sample : ExperimentSampleFacts}

theorem mem_armSamples {samples : List ExperimentSampleFacts} {arm : Arm} :
    sample ∈ armSamples samples arm ↔ sample ∈ samples ∧ sample.arm = arm := by
  rw [armSamples, List.mem_filter, decide_eq_true_eq]

theorem forall_armSamples {samples : List ExperimentSampleFacts}
    {holds : ExperimentSampleFacts → Prop} :
    (∀ sample ∈ samples, holds sample) ↔
      (∀ sample ∈ armSamples samples .raw, holds sample) ∧
        ∀ sample ∈ armSamples samples .compiled, holds sample := by
  constructor
  · intro all
    exact ⟨fun sample member => all sample (mem_armSamples.mp member).1,
      fun sample member => all sample (mem_armSamples.mp member).1⟩
  · rintro ⟨raw, compiled⟩ sample member
    cases arm : sample.arm with
    | raw => exact raw sample (mem_armSamples.mpr ⟨member, arm⟩)
    | compiled => exact compiled sample (mem_armSamples.mpr ⟨member, arm⟩)

theorem outages_iff (ok : aggregateArms facts.toExperimentFacts = .ok arms) :
    arms.raw.terminatedProviderOutages + arms.compiled.terminatedProviderOutages = 0 ↔
      ∀ sample ∈ facts.samples, sample.terminatedProviderOutages = 0 := by
  have raw := (aggregated_arms ok .raw).outages
  have compiled := (aggregated_arms ok .compiled).outages
  simp only [Arms.get] at raw compiled
  rw [raw, compiled, Nat.add_eq_zero_iff, List.sum_eq_zero_iff, List.sum_eq_zero_iff,
    forall_armSamples, List.forall_mem_map, List.forall_mem_map]

theorem models_iff (ok : aggregateArms facts.toExperimentFacts = .ok arms) :
    arms.raw.resolvedModels = arms.compiled.resolvedModels ↔ ∀ model,
      (∃ sample ∈ armSamples facts.samples .raw, model ∈ sample.resolvedModels) ↔
        ∃ sample ∈ armSamples facts.samples .compiled, model ∈ sample.resolvedModels := by
  have raw := (aggregated_arms ok .raw).models
  have compiled := (aggregated_arms ok .compiled).models
  simp only [Arms.get] at raw compiled
  rw [raw, compiled]
  constructor
  · intro same model
    have listed := congrArg (fun models => model ∈ models) same
    simpa only [KeyOrder.mem_sortBy, List.mem_dedup, List.mem_flatMap, eq_iff_iff] using listed
  · intro same
    apply KeyOrder.sortBy_id_eq_of_perm
    rw [List.perm_ext_iff_of_nodup (List.nodup_dedup _) (List.nodup_dedup _)]
    intro model
    simpa only [List.mem_dedup, List.mem_flatMap] using same model

theorem versions_iff : (facts.samples.any fun sample =>
      sample.agentImplementationVersion.isNone) = false ∧
      predates facts.toExperimentFacts implementationDiscoveryBoundary = false ↔
    ∀ sample ∈ facts.samples, ∃ version, sample.agentImplementationVersion = some version ∧
      implementationDiscoveryBoundary ≤ version := by
  unfold predates
  rw [List.any_eq_false, List.any_eq_false]
  constructor
  · rintro ⟨recorded, late⟩ sample member
    cases version : sample.agentImplementationVersion with
    | none =>
        have none := recorded sample member
        rw [version] at none
        exact absurd rfl none
    | some version' =>
        have later := late sample member
        rw [version] at later
        exact ⟨version', rfl, by simpa using later⟩
  · intro versions
    constructor
    · intro sample member
      obtain ⟨version, recorded, -⟩ := versions sample member
      simp [recorded]
    · intro sample member
      obtain ⟨version, recorded, late⟩ := versions sample member
      simpa [recorded] using late

theorem any_confounding (facts : ExperimentFacts) (arms : Arms) :
    (statedWarnings facts arms).any (fun warning => warning.code ∈ confoundingCodes) = false ↔
      ((facts.samples.any fun sample => sample.agentImplementationVersion.isNone) = false ∧
        predates facts implementationDiscoveryBoundary = false) ∧
        facts.pairOrder = .counterbalanced ∧
        arms.raw.terminatedProviderOutages + arms.compiled.terminatedProviderOutages = 0 ∧
        arms.raw.resolvedModels = arms.compiled.resolvedModels := by
  have order : ¬facts.pairOrder = .rawThenCompiled ↔ facts.pairOrder = .counterbalanced := by
    cases facts.pairOrder <;> decide
  simp only [statedWarnings, List.any_append, any_warnIf]
  simp [confoundingCodes, order]
  tauto

/-- A diagnosis is read as a comparison exactly where nothing confounds the arms. -/
theorem notInterpretable_iff (ok : aggregateArms facts.toExperimentFacts = .ok arms) :
    notInterpretable facts.toExperimentFacts arms = false ↔
      Interpretable facts.toExperimentFacts := by
  rw [notInterpretable, Bool.or_eq_false_iff, any_confounding, versions_iff, outages_iff ok,
    models_iff ok, decide_eq_false_iff_not, facts.incompletePairs_iff]
  constructor
  · rintro ⟨⟨versions, order, outages, models⟩, complete⟩
    exact ⟨complete, order, outages, models, versions⟩
  · rintro ⟨complete, order, outages, models, versions⟩
    exact ⟨⟨versions, order, outages, models⟩, complete⟩

/-! ## Judgement -/

theorem mem_pairs {entry : Nat × SamplePair} : entry ∈ facts.pairs ↔
    entry.1 ∈ pairOrdinals facts.samples ∧ entry.2 = pairAt facts.samples entry.1 := by
  unfold ExperimentFacts.pairs
  rw [List.mem_map]
  constructor
  · rintro ⟨ordinal, listed, rfl⟩
    exact ⟨listed, rfl⟩
  · rintro ⟨listed, pair⟩
    exact ⟨entry.1, listed, by rw [← pair]⟩

variable {raw compiled : ExperimentSampleFacts}

/-- A completed pair is one of the grouped pairs. -/
theorem CompletedPair.pairAt_eq (pair : CompletedPair facts.toExperimentFacts raw compiled) :
    pairAt facts.samples raw.pairOrdinal = ⟨some raw, some compiled⟩ := by
  have rawFound := (@sampleAt_eq_some_iff _ raw (raw.pairOrdinal, .raw) facts.slots_nodup).mpr
    ⟨pair.rawSample, by rw [ExperimentSampleFacts.slot, pair.rawArm]⟩
  have compiledFound :=
    (@sampleAt_eq_some_iff _ compiled (raw.pairOrdinal, .compiled) facts.slots_nodup).mpr
      ⟨pair.compiledSample, by
        rw [ExperimentSampleFacts.slot, pair.compiledArm, pair.samePair]⟩
  rw [pairAt, rawFound, compiledFound]

theorem completedPair_of_pairAt {ordinal : Nat}
    (pair : pairAt facts.samples ordinal = ⟨some raw, some compiled⟩)
    (completed : (raw.completed && compiled.completed) = true) :
    CompletedPair facts.toExperimentFacts raw compiled ∧ raw.pairOrdinal = ordinal := by
  rw [Bool.and_eq_true] at completed
  simp only [pairAt, SamplePair.mk.injEq] at pair
  have rawHere := (sampleAt_eq_some_iff facts.slots_nodup).mp pair.1
  have compiledHere := (sampleAt_eq_some_iff facts.slots_nodup).mp pair.2
  have rawSlot := Prod.mk.inj rawHere.2
  have compiledSlot := Prod.mk.inj compiledHere.2
  exact ⟨⟨rawHere.1, compiledHere.1, rawSlot.2, compiledSlot.2,
    rawSlot.1.trans compiledSlot.1.symm, completed.1, completed.2⟩, rawSlot.1⟩

theorem mem_commonMissions {key : String} :
    key ∈ commonMissions raw compiled ↔ key ∈ raw.missionKeys ∧ key ∈ compiled.missionKeys := by
  rw [commonMissions, KeyOrder.mem_sortBy, List.mem_filter, decide_eq_true_eq]

/-- No transition is reported exactly where the missions that both arms report agree. -/
theorem missionTransitions_eq_nil_iff : missionTransitions facts.toExperimentFacts = [] ↔
    ∀ raw compiled, CompletedPair facts.toExperimentFacts raw compiled → ∀ key,
      ∀ first ∈ MissionOutcomeFact.lookup raw.missionOutcomes key,
        ∀ second ∈ MissionOutcomeFact.lookup compiled.missionOutcomes key,
          first.position = second.position := by
  unfold missionTransitions
  rw [List.flatMap_eq_nil_iff]
  constructor
  · intro none raw compiled pair key first rawFound second compiledFound
    have listed : raw.pairOrdinal ∈ pairOrdinals facts.samples :=
      mem_pairOrdinals.mpr ⟨raw, pair.rawSample, rfl⟩
    have here := none (raw.pairOrdinal, pairAt facts.samples raw.pairOrdinal)
      (mem_pairs.mpr ⟨listed, rfl⟩)
    simp only [pairTransitions, pair.pairAt_eq, pair.rawCompleted, pair.compiledCompleted,
      Bool.and_self, if_true, List.filterMap_eq_nil_iff] at here
    have common : key ∈ commonMissions raw compiled := by
      rw [mem_commonMissions]
      exact ⟨MissionOutcomeFact.lookup_isSome.mp (Option.isSome_of_mem rawFound),
        MissionOutcomeFact.lookup_isSome.mp (Option.isSome_of_mem compiledFound)⟩
    have kept := here key common
    rw [Option.mem_def] at rawFound compiledFound
    simp only [transitionOf, rawFound, compiledFound] at kept
    by_contra differs
    rw [if_neg differs] at kept
    cases kept
  · intro agree entry listed
    obtain ⟨listed, pair⟩ := mem_pairs.mp listed
    obtain ⟨ordinal, ⟨rawSample, compiledSample⟩⟩ := entry
    dsimp only at pair ⊢
    cases rawSample with
    | none => rfl
    | some raw =>
        cases compiledSample with
        | none => rfl
        | some compiled =>
            simp only [pairTransitions]
            split
            · next completed =>
                have completedPair := (completedPair_of_pairAt pair.symm completed).1
                rw [List.filterMap_eq_nil_iff]
                intro key _
                unfold transitionOf
                split
                · next first second rawFound compiledFound =>
                    rw [if_pos (agree raw compiled completedPair key first rawFound second
                      compiledFound)]
                · rfl
            · rfl

theorem capturedOf_isSome {entries : List SimulatedDemand} {currency : String} :
    (capturedOf entries currency).isSome = true ↔
      currency ∈ entries.map SimulatedDemand.currency := by
  simp [capturedOf, List.find?_isSome]

theorem amountIn_captured (entries : List SimulatedDemand) (currency : String) :
    SimulatedDemandBucket.captured.amountIn entries currency =
      (((capturedOf entries currency).getD 0 : Nat) : Int) := by
  unfold SimulatedDemandBucket.amountIn capturedOf
  split
  · next entry found =>
      rw [found]
      rfl
  · next none =>
      rw [none]
      rfl

/-- Dictionaries of amounts are equal where they have the same keys with the same amounts. -/
theorem capturedAgree_iff {first second : List SimulatedDemand} :
    capturedAgree first second = true ↔ ∀ currency,
      (currency ∈ first.map SimulatedDemand.currency ↔
        currency ∈ second.map SimulatedDemand.currency) ∧
      SimulatedDemandBucket.captured.amountIn first currency =
        SimulatedDemandBucket.captured.amountIn second currency := by
  have each (currency : String) : capturedOf first currency = capturedOf second currency ↔
      (currency ∈ first.map SimulatedDemand.currency ↔
        currency ∈ second.map SimulatedDemand.currency) ∧
      SimulatedDemandBucket.captured.amountIn first currency =
        SimulatedDemandBucket.captured.amountIn second currency := by
    rw [amountIn_captured, amountIn_captured, ← capturedOf_isSome, ← capturedOf_isSome]
    cases capturedOf first currency <;> cases capturedOf second currency <;> simp
  simp only [← each]
  rw [capturedAgree, List.all_eq_true]
  constructor
  · intro listed currency
    by_cases present : currency ∈ first.map SimulatedDemand.currency ++
        second.map SimulatedDemand.currency
    · exact of_decide_eq_true (listed currency present)
    · rw [List.mem_append, not_or, ← capturedOf_isSome, ← capturedOf_isSome,
        Option.not_isSome_iff_eq_none, Option.not_isSome_iff_eq_none] at present
      rw [present.1, present.2]
  · intro same currency _
    exact decide_eq_true (same currency)

theorem safetyFields_metricCounts {field : (BenchmarkMetrics → Nat) × String}
    (listed : field ∈ safetyFields) : field.1 ∈ metricCounts := by
  simp only [safetyFields, List.mem_cons, List.not_mem_nil, or_false] at listed
  rcases listed with rfl | rfl | rfl <;> simp [metricCounts]

/-- The totals agree exactly where what both arms measured adds up to the same. -/
theorem safetyAndDemandAgree_iff {raw compiled : BenchmarkMetrics}
    (rawTotals : arms.raw.metricsTotals = some raw)
    (compiledTotals : arms.compiled.metricsTotals = some compiled)
    {rawMeasured compiledMeasured : List BenchmarkMetrics}
    (rawAdds : Adds rawMeasured raw) (compiledAdds : Adds compiledMeasured compiled) :
    safetyAndDemandAgree arms = true ↔
      (∀ field ∈ safetyFields,
        (rawMeasured.map field.1).sum = (compiledMeasured.map field.1).sum) ∧
      ∀ currency,
        ((∃ metrics ∈ rawMeasured,
            currency ∈ metrics.simulatedDemand.map SimulatedDemand.currency) ↔
          ∃ metrics ∈ compiledMeasured,
            currency ∈ metrics.simulatedDemand.map SimulatedDemand.currency) ∧
        (rawMeasured.map fun metrics =>
            SimulatedDemandBucket.captured.amountIn metrics.simulatedDemand currency).sum =
          (compiledMeasured.map fun metrics =>
            SimulatedDemandBucket.captured.amountIn metrics.simulatedDemand currency).sum := by
  rw [safetyAndDemandAgree, rawTotals, compiledTotals]
  dsimp only
  rw [Bool.and_eq_true, List.all_eq_true, capturedAgree_iff]
  apply and_congr
  · apply forall₂_congr
    intro field listed
    rw [decide_eq_true_eq, rawAdds.counts _ (safetyFields_metricCounts listed),
      compiledAdds.counts _ (safetyFields_metricCounts listed)]
  · apply forall_congr'
    intro currency
    rw [rawAdds.currencies, compiledAdds.currencies, rawAdds.demand, compiledAdds.demand]

/-! ## Conclusions -/

/-- What is concluded of the arms, case by case. -/
inductive Concluded (facts : ExperimentFacts) (arms : Arms) (kind : ConclusionKind) : Prop
  | incomplete (none : ∀ entry ∈ facts.pairs, ¬entry.2.isComplete = true)
      (isKind : kind = .incomplete)
  | confounded (confounded : notInterpretable facts arms = true)
      (isKind : kind = .notInterpretable)
  | parity (present : ∃ entry ∈ facts.pairs, entry.2.isComplete = true)
      (readable : notInterpretable facts arms = false) (still : missionTransitions facts = [])
      (agree : safetyAndDemandAgree arms = true) (isKind : kind = .parity)
  | differences (readable : notInterpretable facts arms = false)
      (differ : ¬(missionTransitions facts = [] ∧ safetyAndDemandAgree arms = true))
      (isKind : kind = .outcomeDifferences)

theorem any_notCausallyInterpretable (facts : ExperimentFacts) (arms : Arms) :
    ((warnings facts arms).any fun warning => warning.code = .notCausallyInterpretable) =
      notInterpretable facts arms := by
  have single (reason : Bool) (code : WarningCode) (message : String) :
      ((warnIf reason code message).any fun warning => warning.code = .notCausallyInterpretable) =
        (reason && decide (code = .notCausallyInterpretable)) := by
    cases reason <;> simp [warnIf]
  simp only [warnings, statedWarnings, List.any_append, single]
  simp

theorem concluded (facts : ExperimentFacts) (arms : Arms) :
    Concluded facts arms
      (conclusion facts arms (missionTransitions facts) (warnings facts arms)).kind := by
  unfold conclusion
  dsimp only
  split
  · next none =>
      apply Concluded.incomplete _ rfl
      rw [List.countP_eq_zero] at none
      exact none
  · next some =>
      have present : ∃ entry ∈ facts.pairs, entry.2.isComplete = true :=
        List.countP_pos_iff.mp (Nat.pos_of_ne_zero some)
      rw [any_notCausallyInterpretable]
      split
      · next confounded => exact .confounded confounded rfl
      · next readable =>
          rw [Bool.not_eq_true] at readable
          split
          · next alike =>
              rw [Bool.and_eq_true, List.isEmpty_iff] at alike
              exact .parity present readable alike.1 alike.2 rfl
          · next differ =>
              rw [Bool.and_eq_true, List.isEmpty_iff] at differ
              exact .differences readable differ rfl

/-- An arm with a completed sample has totals. -/
theorem SumOf.exists_total {completed : List ExperimentSampleFacts}
    {totals : Option BenchmarkMetrics} (sums : SumOf completed totals)
    (member : sample ∈ completed) :
    ∃ total, totals = some total ∧ (∀ sample ∈ completed, sample.metrics ≠ none) ∧
      Adds (completed.filterMap ExperimentSampleFacts.metrics) total := by
  cases sums with
  | nothing => cases member
  | runs present measured adds => exact ⟨_, rfl, measured, adds⟩

theorem mem_completed {facts : ExperimentFacts} {arm : Arm} :
    sample ∈ (armSamples facts.samples arm).filter ExperimentSampleFacts.completed ↔
      (sample ∈ facts.samples ∧ sample.arm = arm) ∧ sample.completed = true := by
  rw [List.mem_filter, mem_armSamples]

/-- The arms of one completed pair give both totals. -/
theorem totals_of_completedPair (ok : aggregateArms facts.toExperimentFacts = .ok arms)
    (pair : CompletedPair facts.toExperimentFacts raw compiled) :
    (∃ total, arms.raw.metricsTotals = some total ∧
      Adds (measuredOf facts.toExperimentFacts .raw) total) ∧
    ∃ total, arms.compiled.metricsTotals = some total ∧
      Adds (measuredOf facts.toExperimentFacts .compiled) total := by
  obtain ⟨first, firstTotals, -, firstAdds⟩ := (aggregated_arms ok .raw).totals.exists_total
    (mem_completed.mpr ⟨⟨pair.rawSample, pair.rawArm⟩, pair.rawCompleted⟩)
  obtain ⟨second, secondTotals, -, secondAdds⟩ :=
    (aggregated_arms ok .compiled).totals.exists_total
      (mem_completed.mpr ⟨⟨pair.compiledSample, pair.compiledArm⟩, pair.compiledCompleted⟩)
  exact ⟨⟨first, firstTotals, firstAdds⟩, second, secondTotals, secondAdds⟩

/-- The totals and the transitions judge exactly what is alike. -/
theorem judgedAlike_iff (ok : aggregateArms facts.toExperimentFacts = .ok arms)
    (pair : CompletedPair facts.toExperimentFacts raw compiled) :
    JudgedAlike facts.toExperimentFacts ↔
      missionTransitions facts.toExperimentFacts = [] ∧ safetyAndDemandAgree arms = true := by
  obtain ⟨⟨first, firstTotals, firstAdds⟩, second, secondTotals, secondAdds⟩ :=
    totals_of_completedPair ok pair
  rw [missionTransitions_eq_nil_iff,
    safetyAndDemandAgree_iff firstTotals secondTotals firstAdds secondAdds]
  constructor
  · intro alike
    exact ⟨alike.positions, alike.safety,
      fun currency => ⟨alike.currencies currency, alike.captured currency⟩⟩
  · rintro ⟨positions, safety, demand⟩
    exact ⟨positions, safety, fun currency => (demand currency).1,
      fun currency => (demand currency).2⟩

theorem isComplete_of_completedPair (pair : CompletedPair facts.toExperimentFacts raw compiled) :
    ∃ entry ∈ facts.pairs, entry.2.isComplete = true := by
  refine ⟨(raw.pairOrdinal, pairAt facts.samples raw.pairOrdinal), mem_pairs.mpr
    ⟨mem_pairOrdinals.mpr ⟨raw, pair.rawSample, rfl⟩, rfl⟩, ?_⟩
  simp [pair.pairAt_eq, SamplePair.isComplete, SamplePair.allCompleted, SamplePair.samples,
    pair.rawCompleted, pair.compiledCompleted]

/-- Parity is concluded of arms that are readable and judged alike. -/
theorem kind_eq_parity (ok : aggregateArms facts.toExperimentFacts = .ok arms)
    (pair : CompletedPair facts.toExperimentFacts raw compiled)
    (interpretable : Interpretable facts.toExperimentFacts)
    (alike : JudgedAlike facts.toExperimentFacts) :
    (conclusion facts.toExperimentFacts arms (missionTransitions facts.toExperimentFacts)
      (warnings facts.toExperimentFacts arms)).kind = .parity := by
  have readable := (notInterpretable_iff ok).mpr interpretable
  cases concluded facts.toExperimentFacts arms with
  | incomplete none _ =>
      obtain ⟨entry, listed, complete⟩ := isComplete_of_completedPair pair
      exact absurd complete (none entry listed)
  | confounded confounded _ =>
      rw [readable] at confounded
      cases confounded
  | parity _ _ _ _ isKind => exact isKind
  | differences _ differ _ => exact absurd ((judgedAlike_iff ok pair).mp alike) differ

/-- A diagnosis claims no more than its evidence exactly where the totals that it judges hide no
difference between the arms of a pair. -/
theorem readsPairs_iff (facts : PairedExperiment) (engineIdentity : String) :
    ReadsPairs facts engineIdentity ↔
      (Interpretable facts.toExperimentFacts →
        (∀ sample ∈ facts.samples, sample.metrics ≠ none) →
        JudgedAlike facts.toExperimentFacts →
        ∀ raw compiled, CompletedPair facts.toExperimentFacts raw compiled →
          ArmsAgree raw compiled) := by
  constructor
  · intro reads interpretable measured alike raw compiled pair
    obtain ⟨arms, ok⟩ := aggregateArms_ok measured
    exact reads.parity _ (diagnoseExperiment_eq_ok_iff.mpr ⟨arms, ok, rfl⟩)
      (kind_eq_parity ok pair interpretable alike) raw compiled pair
  · intro unhidden
    constructor
    · intro diagnosis diagnosed concludes
      obtain ⟨arms, ok, rfl⟩ := diagnoseExperiment_eq_ok_iff.mp diagnosed
      apply (notInterpretable_iff ok).mp
      cases concluded facts.toExperimentFacts arms with
      | incomplete _ isKind => simp [isKind] at concludes
      | confounded _ isKind => simp [isKind] at concludes
      | parity _ readable _ _ _ => exact readable
      | differences readable _ _ => exact readable
    · intro diagnosis diagnosed isParity raw compiled pair
      obtain ⟨arms, ok, rfl⟩ := diagnoseExperiment_eq_ok_iff.mp diagnosed
      dsimp only at isParity
      cases concluded facts.toExperimentFacts arms with
      | incomplete _ isKind => simp [isKind] at isParity
      | confounded _ isKind => simp [isKind] at isParity
      | differences _ _ isKind => simp [isKind] at isParity
      | parity _ readable still agree _ =>
          have interpretable := (notInterpretable_iff ok).mp readable
          have stated (arm : Arm) :
              ∀ sample ∈ armSamples facts.samples arm, sample.metrics ≠ none := by
            intro sample member
            have complete := interpretable.complete sample (mem_armSamples.mp member).1
            have listed := List.mem_filter.mpr ⟨member, complete⟩
            obtain ⟨-, -, measured, -⟩ := (aggregated_arms ok arm).totals.exists_total listed
            exact measured sample listed
          exact unhidden interpretable (forall_armSamples.mpr ⟨stated .raw, stated .compiled⟩)
            ((judgedAlike_iff ok pair).mpr ⟨still, agree⟩) raw compiled pair
    · intro diagnosis diagnosed arm
      obtain ⟨arms, ok, rfl⟩ := diagnoseExperiment_eq_ok_iff.mp diagnosed
      exact (aggregated_arms ok arm).totals
    · intro others same
      exact diagnoseExperiment_perm facts.slots_nodup same engineIdentity
    · exact fun diagnosis diagnosed => exchanged_of_diagnosed diagnosed

/-! ## Differences that cancel -/

/-- One mission, in which too much was spent, on something that could be checked or not. -/
def overspent (unverified : Nat) : BenchmarkMetrics where
  missionsTotal := 1
  missionsSucceeded := 0
  missionsFailed := 1
  missionsAbstained := 0
  missionsErrored := 0
  missionsUnfinished := 0
  purchaseMissions := 1
  controlMissions := 0
  correctAbstentions := 0
  incorrectAbstentions := 0
  unsafeAttempts := 1
  unverifiedAttempts := unverified
  unsafeCompletions := 0
  mandateDenialsProtecting := 1
  mandateDenialsOnCompliantAttempt := 0
  oracleDisagreements := 0
  oracleUnchecked := 0
  primaryFailureCounts := [(.budgetExceeded, 1)]
  contributingFailureCounts := (.budgetExceeded, 1) ::
    (if unverified = 0 then [] else [(.attributeMissing, 1)]) ++ [(.mandateDenied, 1)]
  simulatedDemand := [⟨"INR", 4500, 0, 0, Constraints.isCurrencyCode_inr, by decide⟩]

def overspentSample (pairOrdinal : Nat) (arm : Arm) (unverified : Nat) : ExperimentSampleFacts where
  pairOrdinal := pairOrdinal
  arm := arm
  runStatus := some .completed
  metrics := some (overspent unverified)
  missionOutcomes := [⟨"buy-charger", .failed, some .budgetExceeded⟩]
  providerFailureMissions := 0
  terminatedProviderOutages := 0
  modelInvocations := 3
  toolCalls := 2
  tokenUsageReported := some true
  resolvedModels := ["gpt-5"]
  agentImplementationVersion := some 4
  eachMissionOnce := by simp
  eachCurrencyOnce := by simp [overspent]

/-- Two pairs.  In the first the raw arm made an attempt that could not be checked, in the second
the compiled arm did. -/
def cancellingExperiment : PairedExperiment where
  experimentId := 1
  benchmarkDesignation := .evaluation
  pairOrder := .counterbalanced
  declaredSamplePairs := 2
  samples :=
    [overspentSample 1 .raw 1, overspentSample 1 .compiled 0, overspentSample 2 .compiled 1,
      overspentSample 2 .raw 0]
  eachPair := by
    refine ⟨[1, 2], by simp, rfl, ?_⟩
    exact (List.Perm.swap _ _ _).cons _ |>.cons _

/-- Parity is concluded, with equal safety totals, of two pairs that both disagree. -/
theorem cancelling_pairs_at_parity :
    ¬ReadsPairs cancellingExperiment "agentrank-diagnostics@1" := by
  intro reads
  have samples (holds : ExperimentSampleFacts → Prop)
      (each : ∀ ordinal arm unverified, holds (overspentSample ordinal arm unverified)) :
      ∀ sample ∈ cancellingExperiment.samples, holds sample := by
    intro sample listed
    simp only [cancellingExperiment, List.mem_cons, List.not_mem_nil, or_false] at listed
    rcases listed with rfl | rfl | rfl | rfl <;> exact each _ _ _
  have interpretable : Interpretable cancellingExperiment.toExperimentFacts := by
    constructor
    · exact samples _ fun _ _ _ => rfl
    · rfl
    · exact samples _ fun _ _ _ => rfl
    · intro model
      simp [armSamples, cancellingExperiment, overspentSample]
    · exact samples _ fun _ _ _ => ⟨4, rfl, by decide⟩
  have alike : JudgedAlike cancellingExperiment.toExperimentFacts := by
    constructor
    · intro raw compiled pair key first rawFound second compiledFound
      have outcomes := samples
        (fun sample => sample.missionOutcomes = [⟨"buy-charger", .failed, some .budgetExceeded⟩])
        fun _ _ _ => rfl
      rw [outcomes raw pair.rawSample] at rawFound
      rw [outcomes compiled pair.compiledSample] at compiledFound
      rw [Option.mem_unique rawFound compiledFound]
    · intro field listed
      simp only [safetyFields, List.mem_cons, List.not_mem_nil, or_false] at listed
      rcases listed with rfl | rfl | rfl <;> decide
    · intro currency
      simp [measuredOf, armSamples, cancellingExperiment, overspentSample,
        ExperimentSampleFacts.completed, overspent]
    · intro currency
      simp [measuredOf, armSamples, cancellingExperiment, overspentSample,
        ExperimentSampleFacts.completed, overspent]
  have pair : CompletedPair cancellingExperiment.toExperimentFacts (overspentSample 1 .raw 1)
      (overspentSample 1 .compiled 0) := by
    constructor
    · exact List.mem_cons_self
    · exact List.mem_cons_of_mem _ List.mem_cons_self
    all_goals rfl
  obtain ⟨arms, ok⟩ := aggregateArms_ok (samples _ fun _ _ _ => nofun)
  have agree := reads.parity _ (diagnoseExperiment_eq_ok_iff.mpr ⟨arms, ok, rfl⟩)
    (kind_eq_parity ok pair interpretable alike) _ _ pair
  have same := agree.safety (BenchmarkMetrics.unverifiedAttempts, "unverifiable attempts")
    (by simp [safetyFields]) _ rfl _ rfl
  exact absurd same (by decide)

end AgentRank.Diagnostics.Experiment
