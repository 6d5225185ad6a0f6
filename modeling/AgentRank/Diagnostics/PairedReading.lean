import AgentRank.Diagnostics.ArmTotals

/-!
# What a diagnosis may be read as

A diagnosis concludes something only where nothing confounds the arms.  Parity is judged by the
missions that both arms of a pair report, and by safety and captured demand over all pairs at
once, so what differs in opposite ways between two pairs is not seen.
-/

namespace AgentRank.Diagnostics.Experiment

open Benchmark Diagnostics Relational Store

/-- The facts of an experiment: each declared pair has one sample of either arm, in any order. -/
structure PairedExperiment extends ExperimentFacts where
  eachPair : ∃ ordinals : List Nat, ordinals.Nodup ∧ ordinals.length = declaredSamplePairs ∧
    (samples.map ExperimentSampleFacts.slot).Perm
      (ordinals.flatMap fun ordinal => [(ordinal, .raw), (ordinal, .compiled)])

/-! ## Pairs -/

section Pairs

variable {samples others : List ExperimentSampleFacts} {sample : ExperimentSampleFacts}
  {slot : Nat × Arm} {ordinal : Nat}

/-- Where no two samples share a place, each place is looked up. -/
theorem sampleAt_eq_some_iff (distinct : (samples.map ExperimentSampleFacts.slot).Nodup) :
    sampleAt samples slot = some sample ↔ sample ∈ samples ∧ sample.slot = slot := by
  constructor
  · intro found
    unfold sampleAt at found
    have here := List.find?_some found
    exact ⟨List.mem_reverse.mp (List.mem_of_find?_eq_some found), of_decide_eq_true here⟩
  · rintro ⟨member, rfl⟩
    have present : (sampleAt samples sample.slot).isSome = true := by
      rw [sampleAt, List.find?_isSome]
      exact ⟨sample, List.mem_reverse.mpr member, decide_eq_true rfl⟩
    obtain ⟨other, found⟩ := Option.isSome_iff_exists.mp present
    rw [found]
    unfold sampleAt at found
    have here := List.find?_some found
    have same : other.slot = sample.slot := of_decide_eq_true here
    have otherMem := List.mem_reverse.mp (List.mem_of_find?_eq_some found)
    rw [List.inj_on_of_nodup_map distinct otherMem member same]

theorem sampleAt_perm (distinct : (samples.map ExperimentSampleFacts.slot).Nodup)
    (same : samples.Perm others) : sampleAt others = sampleAt samples := by
  funext slot
  ext sample
  have othersDistinct : (others.map ExperimentSampleFacts.slot).Nodup :=
    (same.map _).nodup_iff.mp distinct
  rw [sampleAt_eq_some_iff othersDistinct, sampleAt_eq_some_iff distinct, same.mem_iff]

theorem mem_pairOrdinals : ordinal ∈ pairOrdinals samples ↔
    ∃ sample ∈ samples, sample.pairOrdinal = ordinal := by
  rw [pairOrdinals, KeyOrder.mem_sortBy, List.mem_dedup, List.mem_map]

theorem pairOrdinals_perm (same : samples.Perm others) :
    pairOrdinals others = pairOrdinals samples :=
  KeyOrder.sortBy_id_eq_of_perm _ (same.symm.map _).dedup

theorem pairs_perm {facts : ExperimentFacts}
    (distinct : (facts.samples.map ExperimentSampleFacts.slot).Nodup)
    (same : facts.samples.Perm others) :
    { facts with samples := others }.pairs = facts.pairs := by
  simp only [ExperimentFacts.pairs, pairAt, sampleAt_perm distinct same, pairOrdinals_perm same]

end Pairs

namespace PairedExperiment

variable {facts : PairedExperiment} {sample : ExperimentSampleFacts} {ordinal : Nat}

theorem slots_nodup (facts : PairedExperiment) :
    (facts.samples.map ExperimentSampleFacts.slot).Nodup := by
  obtain ⟨ordinals, distinct, -, slots⟩ := facts.eachPair
  rw [slots.nodup_iff, List.nodup_flatMap]
  constructor
  · intro ordinal _
    simp
  · apply distinct.imp
    intro first second differ
    simp [Function.onFun, differ.symm]

theorem length_pairs (facts : PairedExperiment) :
    facts.pairs.length = facts.declaredSamplePairs := by
  obtain ⟨ordinals, distinct, declared, slots⟩ := facts.eachPair
  rw [ExperimentFacts.pairs, List.length_map, ← declared]
  apply List.Perm.length_eq
  have sorted := KeyOrder.sortBy_perm (KeyOrder.natural Nat) id
    (facts.samples.map ExperimentSampleFacts.pairOrdinal).dedup
  apply sorted.trans
  rw [List.perm_ext_iff_of_nodup (List.nodup_dedup _) distinct]
  intro ordinal
  have firsts : (facts.samples.map ExperimentSampleFacts.pairOrdinal).Perm
      ((ordinals.flatMap fun ordinal => [(ordinal, Arm.raw), (ordinal, Arm.compiled)]).map
        Prod.fst) := by
    have mapped := slots.map Prod.fst
    rw [List.map_map] at mapped
    exact mapped
  rw [List.mem_dedup, firsts.mem_iff, List.map_flatMap]
  simp

/-- Every pair completed exactly where every sample did. -/
theorem allCompleted_iff (facts : PairedExperiment) :
    (∀ entry ∈ facts.pairs, entry.2.allCompleted = true) ↔
      ∀ sample ∈ facts.samples, sample.completed = true := by
  constructor
  · intro all sample member
    have listed : sample.pairOrdinal ∈ pairOrdinals facts.samples :=
      mem_pairOrdinals.mpr ⟨sample, member, rfl⟩
    have pair := all (sample.pairOrdinal, pairAt facts.samples sample.pairOrdinal)
      (List.mem_map.mpr ⟨_, listed, rfl⟩)
    have found := (sampleAt_eq_some_iff facts.slots_nodup).mpr ⟨member, rfl⟩
    rw [SamplePair.allCompleted, List.all_eq_true] at pair
    apply pair
    unfold ExperimentSampleFacts.slot at found
    cases arm : sample.arm with
    | raw =>
        rw [arm] at found
        simp [SamplePair.samples, pairAt, found]
    | compiled =>
        rw [arm] at found
        simp [SamplePair.samples, pairAt, found]
  · intro all entry listed
    obtain ⟨ordinal, -, rfl⟩ := List.mem_map.mp listed
    rw [SamplePair.allCompleted, List.all_eq_true]
    intro sample member
    apply all
    simp only [SamplePair.samples, pairAt, List.mem_append, Option.mem_toList] at member
    rcases member with found | found
    · exact ((sampleAt_eq_some_iff facts.slots_nodup).mp found).1
    · exact ((sampleAt_eq_some_iff facts.slots_nodup).mp found).1

theorem incompletePairs_iff (facts : PairedExperiment) :
    ¬0 < incompletePairs facts.toExperimentFacts ↔
      ∀ sample ∈ facts.samples, sample.completed = true := by
  rw [← facts.allCompleted_iff, ← List.countP_eq_length]
  have most : facts.completedPairs ≤ facts.pairs.length := List.countP_le_length
  have count : facts.completedPairs = facts.pairs.countP fun entry => entry.2.allCompleted := rfl
  rw [incompletePairs, ← facts.length_pairs, ← count]
  omega

end PairedExperiment

/-! ## Aggregates -/

/-- The totals of some completed samples. -/
inductive SumOf : List ExperimentSampleFacts → Option BenchmarkMetrics → Prop
  | nothing : SumOf [] none
  | runs {completed : List ExperimentSampleFacts} {total : BenchmarkMetrics}
      (present : completed ≠ []) (measured : ∀ sample ∈ completed, sample.metrics ≠ none)
      (adds : Adds (completed.filterMap ExperimentSampleFacts.metrics) total) :
      SumOf completed (some total)

section Aggregates

variable {group others completed : List ExperimentSampleFacts}

/-- An arm has totals, unless one of its completed samples has no metrics. -/
theorem armTotals_cases (completed : List ExperimentSampleFacts) :
    (∃ sample ∈ completed, sample.metrics = none) ∧
        armTotals completed = .error .assertionError ∨
      (∀ sample ∈ completed, sample.metrics ≠ none) ∧
        ∃ totals, armTotals completed = .ok totals ∧ SumOf completed totals := by
  by_cases missing : ∃ sample ∈ completed, sample.metrics = none
  · obtain ⟨sample, member, none⟩ := missing
    refine .inl ⟨⟨sample, member, none⟩, ?_⟩
    have some : ¬completed.isEmpty = true := by
      rw [List.isEmpty_iff]
      exact List.ne_nil_of_mem member
    rw [armTotals, if_neg some,
      sumMetrics_of_none (List.mem_map.mpr ⟨sample, member, none⟩)]
    rfl
  · push Not at missing
    refine .inr ⟨missing, ?_⟩
    by_cases present : completed = []
    · subst present
      exact ⟨none, rfl, .nothing⟩
    · have stated : completed.map ExperimentSampleFacts.metrics =
          (completed.filterMap ExperimentSampleFacts.metrics).map some := by
        have none : none ∉ completed.map ExperimentSampleFacts.metrics := by
          intro listed
          obtain ⟨sample, member, reads⟩ := List.mem_map.mp listed
          exact missing sample member reads
        have all := map_some_of_stated none
        rw [List.filterMap_map] at all
        exact all.symm
      have once : ∀ metrics ∈ completed.filterMap ExperimentSampleFacts.metrics,
          (metrics.simulatedDemand.map SimulatedDemand.currency).Nodup := by
        intro metrics listed
        obtain ⟨sample, -, reads⟩ := List.mem_filterMap.mp listed
        exact sample.eachCurrencyOnce metrics reads
      obtain ⟨total, summed, adds⟩ := sumMetrics_adds once
      refine ⟨some total, ?_, .runs present missing adds⟩
      rw [armTotals, if_neg (by rwa [List.isEmpty_iff]), stated, summed]
      rfl

theorem sumDemand_perm {items others : List SimulatedDemand} (same : items.Perm others) :
    sumDemand items = sumDemand others := by
  have tallies (amounts : SimulatedDemand → Nat) :=
    @Tally.of_perm _ _ _ items others SimulatedDemand.currency amounts same
  unfold sumDemand
  dsimp only
  rw [KeyOrder.sortBy_id_eq_of_perm _ (tallies _).1, (tallies _).2, (tallies _).2, (tallies _).2]

theorem sumReasonCounts_perm {counts others : List (FailureReason × Nat)}
    (same : counts.Perm others) : sumReasonCounts counts = sumReasonCounts others := by
  have totals := @Tally.of_perm _ _ _ counts others Prod.fst Prod.snd same
  simp only [sumReasonCounts, totals.1.mem_iff, totals.2]

theorem mapM_stated_perm {metrics others : List (Option BenchmarkMetrics)}
    (same : metrics.Perm others) :
    metrics.mapM stated = .error .assertionError ∧ others.mapM stated = .error .assertionError ∨
      ∃ measured otherMeasured, metrics.mapM stated = .ok measured ∧
        others.mapM stated = .ok otherMeasured ∧ measured.Perm otherMeasured := by
  by_cases missing : none ∈ metrics
  · exact .inl ⟨mapM_stated_of_none missing, mapM_stated_of_none (same.mem_iff.mp missing)⟩
  · have otherPresent : none ∉ others := fun listed => missing (same.mem_iff.mpr listed)
    refine .inr ⟨metrics.filterMap id, others.filterMap id, ?_, ?_, same.filterMap id⟩
    · rw [← mapM_stated, map_some_of_stated missing]
    · rw [← mapM_stated, map_some_of_stated otherPresent]

theorem sumMetrics_perm {metrics others : List (Option BenchmarkMetrics)}
    (same : metrics.Perm others) : sumMetrics metrics = sumMetrics others := by
  rcases mapM_stated_perm same with ⟨failed, otherFailed⟩ | ⟨measured, otherMeasured, ok, otherOk,
    measuredPerm⟩
  · rw [sumMetrics, sumMetrics, failed, otherFailed]
  · have sums (field : BenchmarkMetrics → Nat) :
        (measured.map field).sum = (otherMeasured.map field).sum :=
      (measuredPerm.map field).sum_eq
    rw [sumMetrics, sumMetrics, ok, otherOk]
    simp only [bind, Except.bind, sums, sumDemand_perm (measuredPerm.flatMap_right _),
      sumReasonCounts_perm (measuredPerm.flatMap_right _)]

theorem armTotals_perm (same : completed.Perm others) : armTotals completed = armTotals others := by
  rw [armTotals, armTotals, same.isEmpty_eq, sumMetrics_perm (same.map _)]

/-- The order of the samples is no part of what they measured. -/
theorem aggregateSamples_perm (same : group.Perm others) :
    aggregateSamples group = aggregateSamples others := by
  have completed := same.filter ExperimentSampleFacts.completed
  have rates := completed.filterMap fun sample =>
    sample.metrics.bind BenchmarkMetrics.taskCompletionRate
  have sums (field : ExperimentSampleFacts → Nat) :
      (group.map field).sum = (others.map field).sum :=
    (same.map field).sum_eq
  have models := (same.flatMap_right ExperimentSampleFacts.resolvedModels).dedup
  simp only [aggregateSamples, armTotals_perm completed, same.length_eq, completed.length_eq,
    rates.isEmpty_eq, rates.sum_eq, rates.length_eq, sums, KeyOrder.sortBy_id_eq_of_perm _ models]

theorem aggregateArms_perm {facts : ExperimentFacts} (same : facts.samples.Perm others) :
    aggregateArms { facts with samples := others } = aggregateArms facts := by
  have arms (arm : Arm) : aggregateArm { facts with samples := others } arm =
      aggregateArm facts arm :=
    (aggregateSamples_perm (same.filter _)).symm
  rw [aggregateArms, aggregateArms, arms, arms]

end Aggregates

/-- The diagnosis does not depend on the order of the samples. -/
theorem diagnoseExperiment_perm {facts : ExperimentFacts} {others : List ExperimentSampleFacts}
    (distinct : (facts.samples.map ExperimentSampleFacts.slot).Nodup)
    (same : facts.samples.Perm others) (engineIdentity : String) :
    diagnoseExperiment { facts with samples := others } engineIdentity =
      diagnoseExperiment facts engineIdentity := by
  have pairs := pairs_perm distinct same
  have completed : { facts with samples := others }.completedPairs = facts.completedPairs := by
    rw [ExperimentFacts.completedPairs, pairs]
    rfl
  have any (test : ExperimentSampleFacts → Bool) : others.any test = facts.samples.any test := by
    rw [Bool.eq_iff_iff, List.any_eq_true, List.any_eq_true]
    simp only [same.mem_iff]
  have earlier (boundary : Int) : predates { facts with samples := others } boundary =
      predates facts boundary :=
    any _
  have incomplete : incompletePairs { facts with samples := others } = incompletePairs facts := by
    rw [incompletePairs, completed]
    rfl
  have stated (arms : Arms) : statedWarnings { facts with samples := others } arms =
      statedWarnings facts arms := by
    simp only [statedWarnings, any, earlier, incomplete, completed]
  have caveats (arms : Arms) : warnings { facts with samples := others } arms =
      warnings facts arms := by
    simp only [warnings, notInterpretable, stated, incomplete]
  have transitions : missionTransitions { facts with samples := others } =
      missionTransitions facts := by
    rw [missionTransitions, pairs]
    rfl
  have concluded (arms : Arms) : conclusion { facts with samples := others } arms =
      conclusion facts arms := by
    funext moved caveats
    rw [conclusion, pairs]
    rfl
  simp only [diagnoseExperiment, aggregateArms_perm same, transitions, completed, caveats,
    concluded]

/-! ## Exchanging the arms -/

def Arm.other : Arm → Arm
  | .raw => .compiled
  | .compiled => .raw

def ExperimentSampleFacts.exchanged (sample : ExperimentSampleFacts) : ExperimentSampleFacts :=
  { sample with arm := sample.arm.other }

/-- The experiment with its arms exchanged. -/
def ExperimentFacts.exchanged (facts : ExperimentFacts) : ExperimentFacts :=
  { facts with samples := facts.samples.map ExperimentSampleFacts.exchanged }

def Direction.exchanged : Direction → Direction
  | .compiledGain => .compiledLoss
  | .compiledLoss => .compiledGain
  | .changed => .changed

def MissionTransition.exchanged (transition : MissionTransition) : MissionTransition where
  pairOrdinal := transition.pairOrdinal
  missionKey := transition.missionKey
  rawStatus := transition.compiledStatus
  rawPrimaryFailureReason := transition.compiledPrimaryFailureReason
  compiledStatus := transition.rawStatus
  compiledPrimaryFailureReason := transition.rawPrimaryFailureReason
  direction := transition.direction.exchanged

def CurrencyDelta.Negates (first second : CurrencyDelta) : Prop :=
  second.currency = first.currency ∧
    second.potentialAmountMinor = -first.potentialAmountMinor ∧
    second.capturedAmountMinor = -first.capturedAmountMinor ∧
    second.lostAmountMinor = -first.lostAmountMinor ∧
    second.notMeasuredAmountMinor = -first.notMeasuredAmountMinor

/-- The second diagnosis reads the arms of the first the other way round. -/
structure Exchanged (first second : ExperimentDiagnosis) : Prop where
  demand : List.Forall₂ CurrencyDelta.Negates first.demandDeltaByCurrency
    second.demandDeltaByCurrency
  transitions : second.missionTransitions =
    first.missionTransitions.map MissionTransition.exchanged

section Exchange

variable {samples group : List ExperimentSampleFacts} {facts : ExperimentFacts} {arm : Arm}
  {raw compiled : ExperimentSampleFacts} {ordinal : Nat}

theorem Arm.other_eq_iff {first second : Arm} : first.other = second ↔ first = second.other := by
  cases first <;> cases second <;> decide

theorem armSamples_exchanged : armSamples (samples.map ExperimentSampleFacts.exchanged) arm =
    (armSamples samples arm.other).map ExperimentSampleFacts.exchanged := by
  unfold armSamples
  rw [List.filter_map]
  congr 2
  funext sample
  exact decide_eq_decide.mpr Arm.other_eq_iff

/-- What samples measured does not depend on the arm that they are of. -/
theorem aggregateSamples_exchanged :
    aggregateSamples (group.map ExperimentSampleFacts.exchanged) = aggregateSamples group := by
  have completed : (group.map ExperimentSampleFacts.exchanged).filter
      ExperimentSampleFacts.completed =
        (group.filter ExperimentSampleFacts.completed).map ExperimentSampleFacts.exchanged := by
    rw [List.filter_map]
    rfl
  have totals (samples : List ExperimentSampleFacts) :
      armTotals (samples.map ExperimentSampleFacts.exchanged) = armTotals samples := by
    rw [armTotals, armTotals, List.isEmpty_map, List.map_map]
    rfl
  simp only [aggregateSamples, completed, totals, List.length_map, List.map_map,
    List.filterMap_map, List.flatMap_map]
  rfl

theorem aggregateArm_exchanged (facts : ExperimentFacts) (arm : Arm) :
    aggregateArm facts.exchanged arm = aggregateArm facts arm.other := by
  unfold aggregateArm ExperimentFacts.exchanged
  rw [armSamples_exchanged, aggregateSamples_exchanged]

theorem aggregateArms_exchanged {arms : Arms} (aggregated : aggregateArms facts = .ok arms) :
    aggregateArms facts.exchanged = .ok ⟨arms.compiled, arms.raw⟩ := by
  unfold aggregateArms at aggregated ⊢
  rw [aggregateArm_exchanged, aggregateArm_exchanged]
  simp only [Arm.other]
  obtain ⟨raw, rawOk, aggregated⟩ := except_bind_eq_ok_iff.mp aggregated
  obtain ⟨compiled, compiledOk, aggregated⟩ := except_bind_eq_ok_iff.mp aggregated
  cases aggregated
  rw [rawOk, compiledOk]
  rfl

theorem sampleAt_exchanged (slot : Nat × Arm) :
    sampleAt (samples.map ExperimentSampleFacts.exchanged) slot =
      (sampleAt samples (slot.1, slot.2.other)).map ExperimentSampleFacts.exchanged := by
  unfold sampleAt
  rw [← List.map_reverse, List.find?_map]
  congr 2
  funext sample
  apply decide_eq_decide.mpr
  change (sample.pairOrdinal, sample.arm.other) = slot ↔
    (sample.pairOrdinal, sample.arm) = (slot.1, slot.2.other)
  rw [Prod.ext_iff, Prod.ext_iff]
  exact and_congr_right fun _ => Arm.other_eq_iff

def SamplePair.exchanged (pair : SamplePair) : SamplePair where
  raw := pair.compiled.map ExperimentSampleFacts.exchanged
  compiled := pair.raw.map ExperimentSampleFacts.exchanged

theorem pairs_exchanged (facts : ExperimentFacts) : facts.exchanged.pairs =
    facts.pairs.map fun entry => (entry.1, entry.2.exchanged) := by
  have ordinals : pairOrdinals (facts.samples.map ExperimentSampleFacts.exchanged) =
      pairOrdinals facts.samples := by
    rw [pairOrdinals, List.map_map]
    rfl
  unfold ExperimentFacts.pairs ExperimentFacts.exchanged
  rw [ordinals, List.map_map]
  apply List.map_congr_left
  intro ordinal _
  simp only [Function.comp_apply, pairAt, sampleAt_exchanged, SamplePair.exchanged, Arm.other]

theorem commonMissions_comm : commonMissions compiled raw = commonMissions raw compiled := by
  apply KeyOrder.sortBy_id_eq_of_perm
  unfold ExperimentSampleFacts.missionKeys
  rw [List.perm_ext_iff_of_nodup (compiled.eachMissionOnce.filter _)
    (raw.eachMissionOnce.filter _)]
  intro key
  simp only [List.mem_filter, decide_eq_true_eq]
  exact and_comm

theorem direction_exchanged (first second : MissionOutcomeFact) :
    direction second first = (direction first second).exchanged := by
  by_cases raw : first.status = .succeeded <;>
    by_cases compiled : second.status = .succeeded <;>
      simp [direction, raw, compiled, Direction.exchanged]

theorem transitionOf_exchanged (key : String) : transitionOf ordinal compiled raw key =
    (transitionOf ordinal raw compiled key).map MissionTransition.exchanged := by
  unfold transitionOf
  cases first : MissionOutcomeFact.lookup raw.missionOutcomes key with
  | none => cases MissionOutcomeFact.lookup compiled.missionOutcomes key <;> rfl
  | some rawOutcome =>
      cases MissionOutcomeFact.lookup compiled.missionOutcomes key with
      | none => rfl
      | some compiledOutcome =>
          dsimp only
          by_cases same : rawOutcome.position = compiledOutcome.position
          · rw [if_pos same, if_pos same.symm]
            rfl
          · rw [if_neg same, if_neg (Ne.symm same), Option.map_some, MissionTransition.exchanged]
            dsimp only
            rw [direction_exchanged rawOutcome]

theorem pairTransitions_exchanged (pair : SamplePair) :
    pairTransitions ordinal pair.exchanged =
      (pairTransitions ordinal pair).map MissionTransition.exchanged := by
  obtain ⟨_ | raw, _ | compiled⟩ := pair
  · rfl
  · rfl
  · rfl
  · change (if compiled.completed && raw.completed then
        (commonMissions compiled raw).filterMap (transitionOf ordinal compiled raw) else []) =
      (if raw.completed && compiled.completed then
        (commonMissions raw compiled).filterMap (transitionOf ordinal raw compiled) else []).map
          MissionTransition.exchanged
    rw [Bool.and_comm, commonMissions_comm, funext transitionOf_exchanged]
    split
    · rw [List.map_filterMap]
    · rfl

theorem missionTransitions_exchanged (facts : ExperimentFacts) :
    missionTransitions facts.exchanged =
      (missionTransitions facts).map MissionTransition.exchanged := by
  unfold missionTransitions
  rw [pairs_exchanged, List.flatMap_map, List.map_flatMap]
  simp only [pairTransitions_exchanged]

theorem demandDelta_exchanged (arms : Arms) :
    List.Forall₂ CurrencyDelta.Negates (demandDelta arms)
      (demandDelta ⟨arms.compiled, arms.raw⟩) := by
  have currencies : armsCurrencies ⟨arms.compiled, arms.raw⟩ = armsCurrencies arms :=
    KeyOrder.sortBy_id_eq_of_perm _ (List.Perm.dedup List.perm_append_comm)
  unfold demandDelta
  rw [currencies, List.forall₂_map_left_iff, List.forall₂_map_right_iff, List.forall₂_same]
  intro currency _
  refine ⟨rfl, ?_, ?_, ?_, ?_⟩ <;> exact (neg_sub _ _).symm

/-- What a diagnosis is made of. -/
theorem diagnoseExperiment_eq_ok_iff {engineIdentity : String} {diagnosis : ExperimentDiagnosis} :
    diagnoseExperiment facts engineIdentity = .ok diagnosis ↔
      ∃ arms, aggregateArms facts = .ok arms ∧
        diagnosis =
          { engineIdentity := engineIdentity
            experimentId := facts.experimentId
            benchmarkDesignation := facts.benchmarkDesignation
            pairOrder := facts.pairOrder
            declaredSamplePairs := facts.declaredSamplePairs
            completedSamplePairs := facts.completedPairs
            arms := arms
            demandDeltaByCurrency := demandDelta arms
            missionTransitions := missionTransitions facts
            warnings := warnings facts arms
            conclusion := conclusion facts arms (missionTransitions facts)
              (warnings facts arms) } := by
  unfold diagnoseExperiment
  rw [except_bind_eq_ok_iff]
  simp only [Except.ok.injEq, eq_comm]

/-- Exchanging the arms turns every difference round. -/
theorem exchanged_of_diagnosed {engineIdentity : String} {diagnosis : ExperimentDiagnosis}
    (diagnosed : diagnoseExperiment facts engineIdentity = .ok diagnosis) :
    ∃ other, diagnoseExperiment facts.exchanged engineIdentity = .ok other ∧
      Exchanged diagnosis other := by
  obtain ⟨arms, aggregated, rfl⟩ := diagnoseExperiment_eq_ok_iff.mp diagnosed
  refine ⟨_, diagnoseExperiment_eq_ok_iff.mpr ⟨_, aggregateArms_exchanged aggregated, rfl⟩, ?_⟩
  constructor
  · exact demandDelta_exchanged arms
  · exact missionTransitions_exchanged facts

end Exchange

end AgentRank.Diagnostics.Experiment
