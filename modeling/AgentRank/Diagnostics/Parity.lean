import AgentRank.Diagnostics.Comparison

/-!
# Parity of two runs

A comparison publishes more than its conclusion reads.  Parity is judged by the counts, the
rates, the positions of the missions and the captured demand; what the runs cost in interactions,
and the demand in the other three buckets, may move under it.
-/

namespace AgentRank.Diagnostics.Comparison

open Benchmark Diagnostics Relational Store

/-- The runs measured the same thing: neither stopped early, and no pin differs. -/
structure Comparable (baseline candidate : RunFacts) : Prop where
  baselineComplete : baseline.isComplete = true
  candidateComplete : candidate.isComplete = true
  suiteLabel : baseline.suiteLabel = candidate.suiteLabel
  suiteHash : baseline.suiteDefinitionHash = candidate.suiteDefinitionHash
  environment : baseline.environmentLabel = candidate.environmentLabel
  catalogPin : baseline.catalogHash = candidate.catalogHash
  evaluator : baseline.evaluatorVersion = candidate.evaluatorVersion
  executor : baseline.executorLabel = candidate.executorLabel
  delivery : baseline.representationId.isNone = candidate.representationId.isNone

/-- What the conclusion looks at is the same in both runs. -/
structure JudgedAlike (baseline candidate : RunFacts) : Prop where
  counts : ∀ field ∈ publishedCounts, field.2 baseline = field.2 candidate
  positions : ∀ key,
    (MissionOutcomeFact.lookup baseline.outcomes key).map MissionOutcomeFact.position =
      (MissionOutcomeFact.lookup candidate.outcomes key).map MissionOutcomeFact.position
  captured : ∀ currency,
    demandAmount baseline currency .captured = demandAmount candidate currency .captured

/-- What the conclusion does not look at is the same in both runs. -/
structure UnjudgedAlike (baseline candidate : RunFacts) : Prop where
  demand : ∀ currency bucket,
    demandAmount baseline currency bucket = demandAmount candidate currency bucket
  invocations : ∀ before ∈ baseline.modelInvocations, ∀ after ∈ candidate.modelInvocations,
    before = after
  toolCalls : ∀ before ∈ baseline.toolCalls, ∀ after ∈ candidate.toolCalls, before = after

/-- No published figure moved. -/
structure Unmoved (comparison : RunComparison) : Prop where
  counts : ∀ change ∈ comparison.counts, change.delta = 0
  rates : ∀ change ∈ comparison.rates, change.before = change.after
  demand : ∀ change ∈ comparison.simulatedDemand, change.deltaAmountMinor = 0
  missions : comparison.transitions = []
  invocations : ∀ change ∈ comparison.interactions.modelInvocations, change.delta = 0
  toolCalls : ∀ change ∈ comparison.interactions.toolCalls, change.delta = 0

/-- The figures that moved, as a statement names them. -/
inductive Moved (comparison : RunComparison) : String → Prop
  | missions (elsewhere : comparison.transitions ≠ []) :
      Moved comparison (missionsText comparison.transitions)
  | count {change : CountChange} (published : change ∈ comparison.counts)
      (moved : change.delta ≠ 0) : Moved comparison change.text
  | demand {change : SimulatedDemandChange} (published : change ∈ comparison.simulatedDemand)
      (moved : change.deltaAmountMinor ≠ 0) : Moved comparison change.text

def CountChange.Negates (first second : CountChange) : Prop :=
  second.key = first.key ∧ second.delta = -first.delta

def RateChange.Negates (first second : RateChange) : Prop :=
  second.key = first.key ∧ second.delta = first.delta.map fun delta => -delta

def SimulatedDemandChange.Negates (first second : SimulatedDemandChange) : Prop :=
  second.currency = first.currency ∧ second.bucket = first.bucket ∧
    second.deltaAmountMinor = -first.deltaAmountMinor

def Direction.reversed : Direction → Direction
  | .improved => .regressed
  | .regressed => .improved
  | .changed => .changed

def MissionTransition.reversed (transition : MissionTransition) : MissionTransition where
  missionKey := transition.missionKey
  beforeStatus := transition.afterStatus
  beforePrimaryFailureReason := transition.afterPrimaryFailureReason
  afterStatus := transition.beforeStatus
  afterPrimaryFailureReason := transition.beforePrimaryFailureReason
  direction := transition.direction.reversed

/-- The second comparison reads the runs of the first the other way round. -/
structure Mirrored (first second : RunComparison) : Prop where
  counts : List.Forall₂ CountChange.Negates first.counts second.counts
  rates : List.Forall₂ RateChange.Negates first.rates second.rates
  demand : List.Forall₂ SimulatedDemandChange.Negates first.simulatedDemand
    second.simulatedDemand
  transitions : second.transitions.Perm (first.transitions.map MissionTransition.reversed)
  invocations : Option.Rel CountChange.Negates first.interactions.modelInvocations
    second.interactions.modelInvocations
  toolCalls : Option.Rel CountChange.Negates first.interactions.toolCalls
    second.interactions.toolCalls
  kind : second.conclusion.kind = first.conclusion.kind

/-- The comparison does not contradict its own tables. -/
structure AgreesWithItsTables (baseline candidate : RunFacts) (engineIdentity : String) :
    Prop where
  parity : (compareRuns baseline candidate engineIdentity).conclusion.kind = .parity ↔
    (compareRuns baseline candidate engineIdentity).comparable = true ∧
      Unmoved (compareRuns baseline candidate engineIdentity)
  differences :
    (compareRuns baseline candidate engineIdentity).conclusion.kind = .outcomeDifferences ↔
      (compareRuns baseline candidate engineIdentity).comparable = true ∧
        ¬Unmoved (compareRuns baseline candidate engineIdentity)
  named : (compareRuns baseline candidate engineIdentity).conclusion.kind =
      .outcomeDifferences →
    ∃ figure, Moved (compareRuns baseline candidate engineIdentity) figure ∧
      Mentions (compareRuns baseline candidate engineIdentity).conclusion.statement figure
  pinned : (compareRuns baseline candidate engineIdentity).conclusion.kind = .parity ∨
      (compareRuns baseline candidate engineIdentity).conclusion.kind = .outcomeDifferences →
    Comparable baseline candidate
  mirrored : Mirrored (compareRuns baseline candidate engineIdentity)
    (compareRuns candidate baseline engineIdentity)

variable {baseline candidate : RunFacts} {engineIdentity : String}

theorem any_executorWarnings :
    ((executorWarnings baseline candidate).any fun warning =>
      warning.code ∈ notComparableCodes) =
        decide (baseline.executorLabel ≠ candidate.executorLabel) := by
  unfold executorWarnings
  split
  · next differs => simp [differs, notComparableCodes]
  · next same => rw [any_warnIf]; simp [same, notComparableCodes]

/-- A reading is refused where the runs did not measure the same thing. -/
theorem any_notComparable :
    ((warnings baseline candidate).any fun warning =>
      warning.code ∈ notComparableCodes) = true ↔ ¬Comparable baseline candidate := by
  simp only [warnings, List.any_append, any_warnIf, any_executorWarnings]
  constructor
  · intro refused same
    obtain ⟨first, second, label, hash, environment, catalog, evaluator, executor, delivery⟩ := same
    simp [notComparableCodes, first, second, label, hash, environment, catalog, evaluator,
      executor, delivery] at refused
  · intro differs
    contrapose! differs
    simp [notComparableCodes] at differs
    grind [Comparable]

/-! ## Differences -/

section Differences

variable {counts : List CountChange} {demand : List SimulatedDemandChange}
  {moved : List MissionTransition} {opening figure : String} {figures : List String}

@[simp]
theorem described_eq_nil : described opening figures = [] ↔ figures = [] := by
  unfold described
  split <;> simp_all

@[simp]
theorem describedMissions_eq_nil : describedMissions moved = [] ↔ moved = [] := by
  unfold describedMissions
  split <;> simp_all

/-- A described figure is mentioned. -/
theorem mentions_described (member : figure ∈ figures) :
    ∃ part ∈ described opening figures, Mentions part figure := by
  have some : ¬figures.isEmpty = true := by
    rw [List.isEmpty_iff]
    exact List.ne_nil_of_mem member
  rw [described, if_neg some]
  refine ⟨_, List.mem_singleton_self _, ?_⟩
  apply Mentions.append_right
  apply Mentions.append_left
  exact Mentions.intercalate _ member (Mentions.refl _)

theorem mentions_describedMissions (elsewhere : moved ≠ []) :
    ∃ part ∈ describedMissions moved, Mentions part (missionsText moved) := by
  have some : ¬moved.isEmpty = true := by
    rw [List.isEmpty_iff]
    exact elsewhere
  rw [describedMissions, if_neg some]
  exact ⟨_, List.mem_singleton_self _, Mentions.append_right (Mentions.refl _)⟩

/-- Whatever moved among the counts, the missions and the captured demand is described. -/
theorem mentions_count {change : CountChange} (published : change ∈ counts)
    (differs : change.delta ≠ 0) :
    ∃ figure, (∃ other ∈ counts, other.delta ≠ 0 ∧ figure = other.text) ∧
      ∃ part ∈ differenceDescriptions counts demand moved, Mentions part figure := by
  have isMoved : change ∈ counts.filter fun change => change.delta ≠ 0 :=
    List.mem_filter.mpr ⟨published, decide_eq_true differs⟩
  by_cases safety : change.key ∈ safetyCounts
  · -- The safety counts are looked up by their names.
    have present : ((counts.filter fun change => change.delta ≠ 0).find? fun other =>
        other.key = change.key).isSome = true := by
      rw [List.find?_isSome]
      exact ⟨change, isMoved, decide_eq_true rfl⟩
    obtain ⟨other, found⟩ := Option.isSome_iff_exists.mp present
    have otherMoved := List.mem_filter.mp (List.mem_of_find?_eq_some found)
    refine ⟨other.text, ⟨other, otherMoved.1, of_decide_eq_true otherMoved.2, rfl⟩, ?_⟩
    have named : other.text ∈ safetyCounts.filterMap fun name =>
        ((counts.filter fun change => change.delta ≠ 0).find? fun change =>
          change.key = name).map CountChange.text :=
      List.mem_filterMap.mpr ⟨change.key, safety, by rw [found]; rfl⟩
    obtain ⟨part, partMem, mentions⟩ := mentions_described named
    refine ⟨part, ?_, mentions⟩
    unfold differenceDescriptions
    exact List.mem_append_left _ (List.mem_append_left _ (List.mem_append_right _ partMem))
  · refine ⟨change.text, ⟨change, published, differs, rfl⟩, ?_⟩
    have named : change.text ∈ (KeyOrder.natural String).sortBy id
        (((counts.filter fun change => change.delta ≠ 0).filter fun change =>
          change.key ∉ safetyCounts).map CountChange.text) := by
      rw [KeyOrder.mem_sortBy]
      exact List.mem_map_of_mem (List.mem_filter.mpr ⟨isMoved, decide_eq_true safety⟩)
    obtain ⟨part, partMem, mentions⟩ := mentions_described named
    refine ⟨part, ?_, mentions⟩
    unfold differenceDescriptions
    exact List.mem_append_right _ partMem

theorem mentions_captured {change : SimulatedDemandChange} (published : change ∈ demand)
    (isCaptured : change.bucket = .captured) (differs : change.deltaAmountMinor ≠ 0) :
    ∃ part ∈ differenceDescriptions counts demand moved, Mentions part change.text := by
  have named : change.text ∈ (demand.filter fun change =>
      change.bucket = .captured ∧ change.deltaAmountMinor ≠ 0).map
        SimulatedDemandChange.text :=
    List.mem_map_of_mem (List.mem_filter.mpr ⟨published, decide_eq_true ⟨isCaptured, differs⟩⟩)
  obtain ⟨part, partMem, mentions⟩ := mentions_described named
  refine ⟨part, ?_, mentions⟩
  unfold differenceDescriptions
  exact List.mem_append_left _ (List.mem_append_right _ partMem)

theorem mentions_missions (elsewhere : moved ≠ []) :
    ∃ part ∈ differenceDescriptions counts demand moved,
      Mentions part (missionsText moved) := by
  obtain ⟨part, partMem, mentions⟩ := mentions_describedMissions elsewhere
  refine ⟨part, ?_, mentions⟩
  unfold differenceDescriptions
  exact List.mem_append_left _ (List.mem_append_left _ (List.mem_append_left _ partMem))

/-- Nothing is described exactly where none of the judged figures moved. -/
theorem differenceDescriptions_eq_nil :
    differenceDescriptions counts demand moved = [] ↔
      moved = [] ∧ (∀ change ∈ counts, change.delta = 0) ∧
        ∀ change ∈ demand, change.bucket = .captured → change.deltaAmountMinor = 0 := by
  constructor
  · intro nothing
    refine ⟨?_, ?_, ?_⟩
    · by_contra elsewhere
      obtain ⟨part, partMem, -⟩ := mentions_missions elsewhere
      rw [nothing] at partMem
      cases partMem
    · intro change published
      by_contra differs
      obtain ⟨_, -, part, partMem, -⟩ := mentions_count published differs
      rw [nothing] at partMem
      cases partMem
    · intro change published isCaptured
      by_contra differs
      obtain ⟨part, partMem, -⟩ := mentions_captured published isCaptured differs
      rw [nothing] at partMem
      cases partMem
  · rintro ⟨rfl, still, kept⟩
    have noCount : counts.filter (fun change => change.delta ≠ 0) = [] := by
      rw [List.filter_eq_nil_iff]
      intro change published
      simpa using still change published
    have noDemand : demand.filter (fun change =>
        change.bucket = .captured ∧ change.deltaAmountMinor ≠ 0) = [] := by
      rw [List.filter_eq_nil_iff]
      intro change published
      simpa using kept change published
    unfold differenceDescriptions
    rw [noCount, noDemand]
    simp [KeyOrder.sortBy]

end Differences

/-! ## Tables -/

theorem metric_of_counts
    (same : ∀ field ∈ publishedCounts, field.2 baseline = field.2 candidate)
    (name : String) (read : BenchmarkMetrics → Nat) (listed : (name, read) ∈ countFields) :
    read baseline.metrics = read candidate.metrics :=
  same (name, fun facts => read facts.metrics)
    (List.mem_append_left _ (List.mem_map_of_mem listed))

/-- Both rates are over counts that are published. -/
theorem rates_of_counts
    (same : ∀ field ∈ publishedCounts, field.2 baseline = field.2 candidate) :
    ∀ change ∈ rates baseline candidate, change.before = change.after := by
  have succeeded := metric_of_counts same "missions_succeeded"
    BenchmarkMetrics.missionsSucceeded (by simp [countFields])
  have purchases := metric_of_counts same "purchase_missions"
    BenchmarkMetrics.purchaseMissions (by simp [countFields])
  have abstentions := metric_of_counts same "correct_abstentions"
    BenchmarkMetrics.correctAbstentions (by simp [countFields])
  have controls := metric_of_counts same "control_missions"
    BenchmarkMetrics.controlMissions (by simp [countFields])
  intro change published
  simp only [rates, List.mem_cons, List.not_mem_nil, or_false] at published
  rcases published with rfl | rfl
  · simp only [BenchmarkMetrics.taskCompletionRate, succeeded, purchases]
  · simp only [BenchmarkMetrics.correctAbstentionRate, abstentions, controls]

theorem counts_still_iff : (∀ change ∈ counts baseline candidate, change.delta = 0) ↔
    ∀ field ∈ publishedCounts, field.2 baseline = field.2 candidate := by
  unfold counts
  rw [List.forall_mem_map]
  apply forall₂_congr
  intro field listed
  simp only [CountChange.delta]
  omega

theorem mem_comparedCurrencies {currency : String} :
    currency ∈ comparedCurrencies baseline candidate ↔
      currency ∈ baseline.currencies ∨ currency ∈ candidate.currencies := by
  rw [comparedCurrencies, KeyOrder.mem_sortBy, List.mem_dedup, List.mem_append]

theorem mem_demandBuckets (bucket : SimulatedDemandBucket) : bucket ∈ demandBuckets := by
  cases bucket <;> decide

/-- The table of the demand states every amount that is not zero in both runs. -/
theorem demand_still_iff (judged : SimulatedDemandBucket → Prop) :
    (∀ change ∈ demand baseline candidate, judged change.bucket →
      change.deltaAmountMinor = 0) ↔
      ∀ currency bucket, judged bucket →
        demandAmount baseline currency bucket = demandAmount candidate currency bucket := by
  constructor
  · intro still currency bucket isJudged
    by_cases listed : currency ∈ comparedCurrencies baseline candidate
    · have zero := still
        ⟨currency, bucket, demandAmount baseline currency bucket,
          demandAmount candidate currency bucket⟩
        (List.mem_flatMap.mpr
          ⟨currency, listed, List.mem_map_of_mem (mem_demandBuckets bucket)⟩) isJudged
      simp only [SimulatedDemandChange.deltaAmountMinor] at zero
      omega
    · rw [mem_comparedCurrencies, not_or] at listed
      exact (SimulatedDemandBucket.amountIn_of_notMem listed.1).trans
        (SimulatedDemandBucket.amountIn_of_notMem listed.2).symm
  · intro same change published isJudged
    obtain ⟨currency, -, inBucket⟩ := List.mem_flatMap.mp published
    obtain ⟨bucket, -, rfl⟩ := List.mem_map.mp inBucket
    simp only [SimulatedDemandChange.deltaAmountMinor, same currency bucket isJudged, sub_self]

theorem mem_comparedMissions {key : String} : key ∈ comparedMissions baseline candidate ↔
    key ∈ baseline.missionKeys ∨ key ∈ candidate.missionKeys := by
  simp only [comparedMissions, List.mem_append, List.mem_filter, decide_eq_true_eq]
  tauto

theorem lookup_eq_none {facts : RunFacts} {key : String} (absent : key ∉ facts.missionKeys) :
    MissionOutcomeFact.lookup facts.outcomes key = none := by
  rw [← Option.not_isSome_iff_eq_none, MissionOutcomeFact.lookup_isSome]
  exact absent

/-- Every mission that ended elsewhere is among the transitions. -/
theorem transitions_eq_nil_iff : transitions baseline candidate = [] ↔ ∀ key,
    (MissionOutcomeFact.lookup baseline.outcomes key).map MissionOutcomeFact.position =
      (MissionOutcomeFact.lookup candidate.outcomes key).map MissionOutcomeFact.position := by
  unfold transitions
  rw [List.filterMap_eq_nil_iff]
  constructor
  · intro none key
    by_cases listed : key ∈ comparedMissions baseline candidate
    · have alike := none key listed
      unfold transitionOf at alike
      dsimp only at alike
      split at alike
      · next same => exact same.2.2
      · cases alike
    · rw [mem_comparedMissions, not_or] at listed
      rw [lookup_eq_none listed.1, lookup_eq_none listed.2]
  · intro same key listed
    unfold transitionOf
    rw [if_pos]
    have alike := same key
    have present := mem_comparedMissions.mp listed
    have both : (MissionOutcomeFact.lookup baseline.outcomes key).isSome =
        (MissionOutcomeFact.lookup candidate.outcomes key).isSome := by
      simpa using congrArg Option.isSome alike
    rcases present with inBaseline | inCandidate
    · have found := MissionOutcomeFact.lookup_isSome.mpr inBaseline
      exact ⟨found, both ▸ found, alike⟩
    · have found := MissionOutcomeFact.lookup_isSome.mpr inCandidate
      exact ⟨both ▸ found, found, alike⟩

theorem countChange_still_iff {key : String} {before after : Option Nat} :
    (∀ change ∈ countChange key before after, change.delta = 0) ↔
      ∀ first ∈ before, ∀ second ∈ after, first = second := by
  cases before with
  | none => simp [countChange]
  | some before =>
      cases after with
      | none => simp [countChange]
      | some after =>
          simp only [countChange, Option.mem_def, Option.some.injEq, forall_eq',
            CountChange.delta]
          omega

/-- Nothing is described exactly where the runs are judged alike. -/
theorem judgedAlike_iff : JudgedAlike baseline candidate ↔
    differenceDescriptions (counts baseline candidate) (demand baseline candidate)
      (transitions baseline candidate) = [] := by
  rw [differenceDescriptions_eq_nil, transitions_eq_nil_iff, counts_still_iff,
    demand_still_iff fun bucket => bucket = .captured]
  constructor
  · intro alike
    refine ⟨alike.positions, alike.counts, ?_⟩
    rintro currency _ rfl
    exact alike.captured currency
  · rintro ⟨positions, counts, captured⟩
    exact ⟨counts, positions, fun currency => captured currency _ rfl⟩

theorem unmoved_iff : Unmoved (compareRuns baseline candidate engineIdentity) ↔
    JudgedAlike baseline candidate ∧ UnjudgedAlike baseline candidate := by
  constructor
  · rintro ⟨counts, -, demand, missions, invocations, toolCalls⟩
    have amounts := (demand_still_iff fun _ => True).mp fun change published _ =>
      demand change published
    constructor
    · exact ⟨counts_still_iff.mp counts, transitions_eq_nil_iff.mp missions,
        fun currency => amounts currency _ trivial⟩
    · exact ⟨fun currency bucket => amounts currency bucket trivial,
        countChange_still_iff.mp invocations, countChange_still_iff.mp toolCalls⟩
  · rintro ⟨judged, unjudged⟩
    constructor
    · exact counts_still_iff.mpr judged.counts
    · exact rates_of_counts judged.counts
    · intro change published
      exact (demand_still_iff fun _ => True).mpr
        (fun currency bucket _ => unjudged.demand currency bucket) change published trivial
    · exact transitions_eq_nil_iff.mpr judged.positions
    · exact countChange_still_iff.mpr unjudged.invocations
    · exact countChange_still_iff.mpr unjudged.toolCalls

/-! ## Conclusions -/

theorem comparable_iff :
    (compareRuns baseline candidate engineIdentity).comparable = true ↔
      Comparable baseline candidate := by
  simp only [compareRuns]
  rw [Bool.not_eq_true', ← Bool.not_eq_true, any_notComparable, not_not]

/-- What a comparison concludes, case by case. -/
inductive Concluded (baseline candidate : RunFacts) (conclusion : ComparisonConclusion) : Prop
  | incomplete (refused : ¬Comparable baseline candidate) (kind : conclusion.kind = .incomplete)
  | parity (compared : Comparable baseline candidate) (alike : JudgedAlike baseline candidate)
      (kind : conclusion.kind = .parity)
  | differences (compared : Comparable baseline candidate)
      (differ : ¬JudgedAlike baseline candidate) (kind : conclusion.kind = .outcomeDifferences)
      (statement : conclusion.statement = "Between these two runs, " ++ "; ".intercalate
        (differenceDescriptions (counts baseline candidate) (demand baseline candidate)
          (transitions baseline candidate)) ++ ".")

theorem conclusion_compareRuns :
    (compareRuns baseline candidate engineIdentity).conclusion =
      conclusion (counts baseline candidate) (rates baseline candidate)
        (demand baseline candidate) (transitions baseline candidate)
        ((warnings baseline candidate).any fun warning => warning.code ∈ notComparableCodes) := by
  simp only [compareRuns]

theorem concluded (baseline candidate : RunFacts) (engineIdentity : String) :
    Concluded baseline candidate
      (compareRuns baseline candidate engineIdentity).conclusion := by
  rw [conclusion_compareRuns]
  unfold conclusion
  dsimp only
  split
  · next refused => exact .incomplete (any_notComparable.mp refused) rfl
  · next allowed =>
      rw [any_notComparable, not_not] at allowed
      split
      · next same =>
          exact .parity allowed (judgedAlike_iff.mpr (List.isEmpty_iff.mp same.1)) rfl
      · next moved =>
          apply Concluded.differences allowed _ rfl rfl
          intro alike
          exact moved ⟨List.isEmpty_iff.mpr (judgedAlike_iff.mp alike),
            rates_of_counts alike.counts⟩

theorem kind_eq_parity_iff :
    (compareRuns baseline candidate engineIdentity).conclusion.kind = .parity ↔
      Comparable baseline candidate ∧ JudgedAlike baseline candidate := by
  cases concluded baseline candidate engineIdentity with
  | incomplete refused kind => simp [kind, refused]
  | parity compared alike kind => simp [kind, compared, alike]
  | differences compared differ kind _ => simp [kind, differ]

theorem kind_eq_differences_iff :
    (compareRuns baseline candidate engineIdentity).conclusion.kind = .outcomeDifferences ↔
      Comparable baseline candidate ∧ ¬JudgedAlike baseline candidate := by
  cases concluded baseline candidate engineIdentity with
  | incomplete refused kind => simp [kind, refused]
  | parity compared alike kind => simp [kind, alike]
  | differences compared differ kind _ => simp [kind, compared, differ]

/-- A statement about differences names a figure that moved. -/
theorem names_moved
    (differs : (compareRuns baseline candidate engineIdentity).conclusion.kind =
      .outcomeDifferences) :
    ∃ figure, Moved (compareRuns baseline candidate engineIdentity) figure ∧
      Mentions (compareRuns baseline candidate engineIdentity).conclusion.statement figure := by
  cases concluded baseline candidate engineIdentity with
  | incomplete _ kind => rw [kind] at differs; cases differs
  | parity _ _ kind => rw [kind] at differs; cases differs
  | differences _ differ _ statement =>
      rw [statement]
      have mentioned {figure : String} (found : ∃ part ∈ differenceDescriptions
          (counts baseline candidate) (demand baseline candidate)
          (transitions baseline candidate), Mentions part figure) :
          Mentions ("Between these two runs, " ++ "; ".intercalate (differenceDescriptions
            (counts baseline candidate) (demand baseline candidate)
            (transitions baseline candidate)) ++ ".") figure := by
        obtain ⟨part, partMem, mentions⟩ := found
        apply Mentions.append_right
        apply Mentions.append_left
        exact Mentions.intercalate _ partMem mentions
      rw [judgedAlike_iff, differenceDescriptions_eq_nil] at differ
      by_cases elsewhere : transitions baseline candidate = []
      · by_cases still : ∀ change ∈ counts baseline candidate, change.delta = 0
        · have moved : ∃ change ∈ demand baseline candidate, change.bucket = .captured ∧
              change.deltaAmountMinor ≠ 0 := by
            by_contra none
            push Not at none
            exact differ ⟨elsewhere, still, none⟩
          obtain ⟨change, published, isCaptured, differs⟩ := moved
          exact ⟨_, .demand published differs,
            mentioned (mentions_captured published isCaptured differs)⟩
        · push Not at still
          obtain ⟨change, published, differs⟩ := still
          obtain ⟨figure, ⟨other, otherMem, otherMoved, rfl⟩, found⟩ :=
            mentions_count published differs
          exact ⟨_, .count otherMem otherMoved, mentioned found⟩
      · exact ⟨_, .missions elsewhere, mentioned (mentions_missions elsewhere)⟩

/-! ## The other way round -/

theorem Comparable.symm (compared : Comparable baseline candidate) :
    Comparable candidate baseline where
  baselineComplete := compared.candidateComplete
  candidateComplete := compared.baselineComplete
  suiteLabel := compared.suiteLabel.symm
  suiteHash := compared.suiteHash.symm
  environment := compared.environment.symm
  catalogPin := compared.catalogPin.symm
  evaluator := compared.evaluator.symm
  executor := compared.executor.symm
  delivery := compared.delivery.symm

theorem JudgedAlike.symm (alike : JudgedAlike baseline candidate) :
    JudgedAlike candidate baseline where
  counts field listed := (alike.counts field listed).symm
  positions key := (alike.positions key).symm
  captured currency := (alike.captured currency).symm

theorem kind_symm : (compareRuns candidate baseline engineIdentity).conclusion.kind =
    (compareRuns baseline candidate engineIdentity).conclusion.kind := by
  cases concluded baseline candidate engineIdentity with
  | incomplete refused kind =>
      cases concluded candidate baseline engineIdentity with
      | incomplete _ other => rw [kind, other]
      | parity compared _ _ => exact absurd compared.symm refused
      | differences compared _ _ _ => exact absurd compared.symm refused
  | parity compared alike kind =>
      rw [kind, kind_eq_parity_iff]
      exact ⟨compared.symm, alike.symm⟩
  | differences compared differ kind _ =>
      rw [kind, kind_eq_differences_iff]
      exact ⟨compared.symm, fun alike => differ alike.symm⟩

theorem comparedCurrencies_symm :
    comparedCurrencies candidate baseline = comparedCurrencies baseline candidate :=
  KeyOrder.sortBy_id_eq_of_perm _ (List.Perm.dedup List.perm_append_comm)

theorem counts_mirrored :
    List.Forall₂ CountChange.Negates (counts baseline candidate) (counts candidate baseline) := by
  unfold counts
  rw [List.forall₂_map_left_iff, List.forall₂_map_right_iff, List.forall₂_same]
  intro field listed
  constructor
  · rfl
  · simp only [CountChange.delta]
    omega

theorem rate_negates (key : String) (before after : Option ℚ) :
    RateChange.Negates ⟨key, before, after⟩ ⟨key, after, before⟩ := by
  constructor
  · rfl
  · cases before with
    | none => cases after <;> rfl
    | some before =>
        cases after with
        | none => rfl
        | some after => simp [RateChange.delta]

theorem rates_mirrored :
    List.Forall₂ RateChange.Negates (rates baseline candidate) (rates candidate baseline) :=
  .cons (rate_negates _ _ _) (.cons (rate_negates _ _ _) .nil)

theorem demand_mirrored : List.Forall₂ SimulatedDemandChange.Negates
    (demand baseline candidate) (demand candidate baseline) := by
  unfold demand
  rw [@comparedCurrencies_symm baseline candidate]
  induction comparedCurrencies baseline candidate with
  | nil => exact .nil
  | cons currency rest ih =>
      rw [List.flatMap_cons, List.flatMap_cons]
      apply List.rel_append _ ih
      rw [List.forall₂_map_left_iff, List.forall₂_map_right_iff, List.forall₂_same]
      intro bucket _
      refine ⟨rfl, rfl, ?_⟩
      simp only [SimulatedDemandChange.deltaAmountMinor, neg_sub]

theorem direction_reversed (before after : Option MissionOutcomeFact) :
    direction after before = (direction before after).reversed := by
  cases before with
  | none => cases after <;> rfl
  | some before =>
      cases after with
      | none => rfl
      | some after =>
          by_cases first : before.status = .succeeded <;>
            by_cases second : after.status = .succeeded <;>
              simp [direction, first, second, Direction.reversed]

theorem transitionOf_reversed (key : String) : transitionOf candidate baseline key =
    (transitionOf baseline candidate key).map MissionTransition.reversed := by
  unfold transitionOf
  dsimp only
  split
  · next same => rw [if_pos ⟨same.2.1, same.1, same.2.2.symm⟩]; rfl
  · next elsewhere =>
      rw [if_neg fun same => elsewhere ⟨same.2.1, same.1, same.2.2.symm⟩]
      rw [Option.map_some, MissionTransition.reversed]
      dsimp only
      rw [direction_reversed (MissionOutcomeFact.lookup baseline.outcomes key)]

theorem nodup_comparedMissions (baseline candidate : RunFacts) :
    (comparedMissions baseline candidate).Nodup := by
  apply List.Nodup.append candidate.eachMissionOnce (baseline.eachMissionOnce.filter _)
  intro key inCandidate later
  have absent := of_decide_eq_true (List.mem_filter.mp later).2
  exact absent inCandidate

theorem comparedMissions_perm :
    (comparedMissions candidate baseline).Perm (comparedMissions baseline candidate) := by
  rw [List.perm_ext_iff_of_nodup (nodup_comparedMissions _ _) (nodup_comparedMissions _ _)]
  intro key
  rw [mem_comparedMissions, mem_comparedMissions, or_comm]

theorem transitions_mirrored : (transitions candidate baseline).Perm
    ((transitions baseline candidate).map MissionTransition.reversed) := by
  unfold transitions
  rw [List.map_filterMap]
  have reversed : transitionOf candidate baseline = fun key =>
      (transitionOf baseline candidate key).map MissionTransition.reversed :=
    funext transitionOf_reversed
  rw [reversed]
  exact comparedMissions_perm.filterMap _

theorem countChange_mirrored (key : String) (before after : Option Nat) :
    Option.Rel CountChange.Negates (countChange key before after)
      (countChange key after before) := by
  cases before with
  | none => cases after <;> exact .none
  | some before =>
      cases after with
      | none => exact .none
      | some after =>
          apply Option.Rel.some
          constructor
          · rfl
          · simp only [CountChange.delta]
            omega

/-- Reading the runs the other way round reverses every table and keeps the conclusion. -/
theorem mirrored (baseline candidate : RunFacts) (engineIdentity : String) :
    Mirrored (compareRuns baseline candidate engineIdentity)
      (compareRuns candidate baseline engineIdentity) where
  counts := counts_mirrored
  rates := rates_mirrored
  demand := demand_mirrored
  transitions := transitions_mirrored
  invocations := countChange_mirrored _ _ _
  toolCalls := countChange_mirrored _ _ _
  kind := kind_symm

/-- A comparison agrees with its tables exactly where nothing that it does not judge moves on
its own. -/
theorem agreesWithItsTables_iff (baseline candidate : RunFacts) (engineIdentity : String) :
    AgreesWithItsTables baseline candidate engineIdentity ↔
      (Comparable baseline candidate → JudgedAlike baseline candidate →
        UnjudgedAlike baseline candidate) := by
  constructor
  · intro agrees compared judged
    have parity := agrees.parity.mp (kind_eq_parity_iff.mpr ⟨compared, judged⟩)
    exact (unmoved_iff.mp parity.2).2
  · intro unjudged
    constructor
    · rw [kind_eq_parity_iff, comparable_iff, unmoved_iff]
      apply and_congr_right
      intro compared
      exact ⟨fun judged => ⟨judged, unjudged compared judged⟩, And.left⟩
    · rw [kind_eq_differences_iff, comparable_iff, unmoved_iff]
      apply and_congr_right
      intro compared
      apply not_congr
      exact ⟨fun judged => ⟨judged, unjudged compared judged⟩, And.left⟩
    · exact names_moved
    · rw [kind_eq_parity_iff, kind_eq_differences_iff]
      rintro (parity | differences)
      · exact parity.1
      · exact differences.1
    · exact mirrored baseline candidate engineIdentity

/-- One mission, in which a purchase was made. -/
def sampleMetrics : BenchmarkMetrics where
  missionsTotal := 1
  missionsSucceeded := 1
  missionsFailed := 0
  missionsAbstained := 0
  missionsErrored := 0
  missionsUnfinished := 0
  purchaseMissions := 1
  controlMissions := 0
  correctAbstentions := 0
  incorrectAbstentions := 0
  unsafeAttempts := 0
  unverifiedAttempts := 0
  unsafeCompletions := 0
  mandateDenialsProtecting := 0
  mandateDenialsOnCompliantAttempt := 0
  oracleDisagreements := 0
  oracleUnchecked := 0
  primaryFailureCounts := []
  contributingFailureCounts := []
  simulatedDemand := [⟨"INR", 4500, 4500, 0, Constraints.isCurrencyCode_inr, by decide⟩]

/-- A run of a buyer that asked its model three times. -/
def sampleFacts : RunFacts where
  runId := 1
  status := .completed
  suiteLabel := "volt@1"
  suiteDefinitionHash := some "5f"
  environmentLabel := some "volt-edge@1"
  catalogHash := some "a0"
  evaluatorVersion := some "3"
  executorLabel := some "llm-buyer@4"
  executorRevision := some "main"
  buyerConfigurationDigest := some "c1"
  representationId := none
  resolvedModels := ["gpt-5"]
  metrics := sampleMetrics
  missionsWithProviderErrors := 0
  terminatedProviderOutages := 0
  modelInvocations := some 3
  toolCalls := some 2
  tokenUsageReported := some true
  outcomes := [⟨"buy-charger", .succeeded, none⟩]
  startedAt := some 0
  completedAt := some 90000000
  eachMissionOnce := by simp
  eachCurrencyOnce := by simp [sampleMetrics]

/-- A later run of the same buyer, which asked its model once more. -/
def slowerFacts : RunFacts :=
  { sampleFacts with runId := 2, modelInvocations := some 4 }

/-- Nothing measurable changed, the comparison states, and publishes a count that did. -/
theorem slower_buyer_at_parity :
    ¬AgreesWithItsTables sampleFacts slowerFacts "agentrank-diagnostics@1" := by
  intro agrees
  have compared : Comparable sampleFacts slowerFacts :=
    ⟨rfl, rfl, rfl, rfl, rfl, rfl, rfl, rfl, rfl⟩
  have judged : JudgedAlike sampleFacts slowerFacts := by
    constructor
    · intro field listed
      simp only [publishedCounts, countFields, List.map_cons, List.map_nil, List.cons_append,
        List.nil_append, List.mem_cons, List.not_mem_nil, or_false] at listed
      rcases listed with rfl | rfl | rfl | rfl | rfl | rfl | rfl | rfl | rfl | rfl | rfl |
        rfl | rfl | rfl | rfl <;> rfl
    · exact fun key => rfl
    · exact fun currency => rfl
  have unmoved := (agrees.parity.mp (kind_eq_parity_iff.mpr ⟨compared, judged⟩)).2
  have still := (unmoved_iff.mp unmoved).2.invocations 3 rfl 4 rfl
  exact absurd still (by decide)

end AgentRank.Diagnostics.Comparison
