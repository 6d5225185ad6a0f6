import AgentRank.Diagnostics.Experiment

/-!
# The totals of an arm

Every count of an arm's totals is the sum of that count over the runs, and so is every amount in
every currency.  The amounts stay a partition: what is lost is what is left of the potential.
-/

namespace AgentRank.Diagnostics.Experiment

open Benchmark Constraints Diagnostics Relational

/-- Every count of the metrics. -/
def metricCounts : List (BenchmarkMetrics → Nat) :=
  [BenchmarkMetrics.missionsTotal, BenchmarkMetrics.missionsSucceeded,
    BenchmarkMetrics.missionsFailed, BenchmarkMetrics.missionsAbstained,
    BenchmarkMetrics.missionsErrored, BenchmarkMetrics.missionsUnfinished,
    BenchmarkMetrics.purchaseMissions, BenchmarkMetrics.controlMissions,
    BenchmarkMetrics.correctAbstentions, BenchmarkMetrics.incorrectAbstentions,
    BenchmarkMetrics.unsafeAttempts, BenchmarkMetrics.unverifiedAttempts,
    BenchmarkMetrics.unsafeCompletions, BenchmarkMetrics.mandateDenialsProtecting,
    BenchmarkMetrics.mandateDenialsOnCompliantAttempt, BenchmarkMetrics.oracleDisagreements,
    BenchmarkMetrics.oracleUnchecked]

/-- How often a reason is counted. -/
def reasonCount (counts : List (FailureReason × Nat)) (reason : FailureReason) : Nat :=
  (counts.map fun entry => if entry.1 = reason then entry.2 else 0).sum

/-- The metrics are the sum of those of the runs. -/
structure Adds (measured : List BenchmarkMetrics) (total : BenchmarkMetrics) : Prop where
  counts : ∀ field ∈ metricCounts, field total = (measured.map field).sum
  primaryReasons : ∀ reason, reasonCount total.primaryFailureCounts reason =
    (measured.map fun metrics => reasonCount metrics.primaryFailureCounts reason).sum
  contributingReasons : ∀ reason, reasonCount total.contributingFailureCounts reason =
    (measured.map fun metrics => reasonCount metrics.contributingFailureCounts reason).sum
  demand : ∀ (bucket : SimulatedDemandBucket) currency,
    bucket.amountIn total.simulatedDemand currency =
      (measured.map fun metrics => bucket.amountIn metrics.simulatedDemand currency).sum
  currencies : ∀ currency, currency ∈ total.simulatedDemand.map SimulatedDemand.currency ↔
    ∃ metrics ∈ measured, currency ∈ metrics.simulatedDemand.map SimulatedDemand.currency
  eachCurrencyOnce : (total.simulatedDemand.map SimulatedDemand.currency).Nodup
  lost : ∀ entry ∈ total.simulatedDemand, entry.lostAmountMinor =
    entry.potentialAmountMinor - entry.capturedAmountMinor - entry.notMeasuredAmountMinor

/-! ## Demand -/

/-- What some entries state of a currency in a bucket, all together. -/
def statedAmount (bucket : SimulatedDemandBucket) (items : List SimulatedDemand)
    (currency : String) : Int :=
  (items.map fun entry => if entry.currency = currency then bucket.amount entry else 0).sum

variable {measured : List BenchmarkMetrics}

section Demand

variable {items : List SimulatedDemand} {currency : String} {bucket : SimulatedDemandBucket}

theorem statedAmount_of_amounts {amounts : SimulatedDemand → Nat}
    (reads : ∀ entry, bucket.amount entry = amounts entry) :
    statedAmount bucket items currency =
      (Tally.of items SimulatedDemand.currency amounts).amount currency := by
  rw [Tally.amount_of, statedAmount]
  induction items with
  | nil => rfl
  | cons entry rest ih =>
      rw [List.map_cons, List.sum_cons, ih, List.map_cons, List.sum_cons, Nat.cast_add, reads]
      congr 1
      split <;> simp

theorem statedAmount_lost : statedAmount .lost items currency =
    statedAmount .potential items currency - statedAmount .captured items currency -
      statedAmount .notMeasured items currency := by
  unfold statedAmount
  induction items with
  | nil => rfl
  | cons entry rest ih =>
      simp only [List.map_cons, List.sum_cons, ih]
      split
      · simp only [SimulatedDemandBucket.amount, SimulatedDemand.lostAmountMinor]
        omega
      · omega

/-- Demand of one currency, over several entries, is still a partition of the potential. -/
theorem tallies_covered :
    (Tally.of items SimulatedDemand.currency SimulatedDemand.capturedAmountMinor).amount currency +
        (Tally.of items SimulatedDemand.currency
          SimulatedDemand.notMeasuredAmountMinor).amount currency ≤
      (Tally.of items SimulatedDemand.currency
        SimulatedDemand.potentialAmountMinor).amount currency := by
  simp only [Tally.amount_of]
  induction items with
  | nil => simp
  | cons entry rest ih =>
      simp only [List.map_cons, List.sum_cons]
      have covered := entry.covered
      split <;> omega

theorem statedAmount_flatMap
    (once : ∀ metrics ∈ measured, (metrics.simulatedDemand.map SimulatedDemand.currency).Nodup) :
    statedAmount bucket (measured.flatMap BenchmarkMetrics.simulatedDemand) currency =
      (measured.map fun metrics => bucket.amountIn metrics.simulatedDemand currency).sum := by
  induction measured with
  | nil => rfl
  | cons metrics rest ih =>
      rw [List.map_cons, List.sum_cons, ← ih fun other member => once other (.tail _ member),
        SimulatedDemandBucket.amountIn_eq_sum (once metrics (.head _)), List.flatMap_cons,
        statedAmount, List.map_append, List.sum_append]
      rfl

theorem statedAmount_of_notMem (absent : currency ∉ items.map SimulatedDemand.currency) :
    statedAmount bucket items currency = 0 := by
  apply List.sum_eq_zero
  intro amount listed
  obtain ⟨entry, member, rfl⟩ := List.mem_map.mp listed
  rw [if_neg]
  intro same
  exact absent (List.mem_map.mpr ⟨entry, member, same⟩)

/-- An entry of the summed demand states what all entries of its currency do. -/
def SumsUp (items : List SimulatedDemand) (currency : String) (entry : SimulatedDemand) : Prop :=
  entry.currency = currency ∧
    ∀ bucket : SimulatedDemandBucket, bucket.amount entry = statedAmount bucket items currency

theorem make_sumsUp (listed : currency ∈ items.map SimulatedDemand.currency) :
    ∃ entry, (SimulatedDemand.make currency
        ((Tally.of items SimulatedDemand.currency
          SimulatedDemand.potentialAmountMinor).amount currency)
        ((Tally.of items SimulatedDemand.currency
          SimulatedDemand.capturedAmountMinor).amount currency)
        ((Tally.of items SimulatedDemand.currency
          SimulatedDemand.notMeasuredAmountMinor).amount currency)).mapError
          Raised.valueError = .ok entry ∧ SumsUp items currency entry := by
  have covered := @tallies_covered items currency
  have potential := @statedAmount_of_amounts items currency .potential
    SimulatedDemand.potentialAmountMinor fun entry => rfl
  have captured := @statedAmount_of_amounts items currency .captured
    SimulatedDemand.capturedAmountMinor fun entry => rfl
  have notMeasured := @statedAmount_of_amounts items currency .notMeasured
    SimulatedDemand.notMeasuredAmountMinor fun entry => rfl
  obtain ⟨item, -, same⟩ := List.mem_map.mp listed
  unfold SimulatedDemand.make
  split
  · next notCurrency =>
      rw [← same, item.isCurrency] at notCurrency
      cases notCurrency
  · rw [dif_pos covered]
    refine ⟨_, rfl, rfl, ?_⟩
    intro bucket
    cases bucket with
    | potential => exact potential.symm
    | captured => exact captured.symm
    | lost =>
        rw [statedAmount_lost, potential, captured, notMeasured]
        rfl
    | notMeasured => exact notMeasured.symm

theorem currencies_of_sumsUp {keys : List String} {demand : List SimulatedDemand}
    (sums : List.Forall₂ (SumsUp items) keys demand) :
    demand.map SimulatedDemand.currency = keys := by
  induction sums with
  | nil => rfl
  | cons first _ ih => rw [List.map_cons, ih, first.1]

theorem amount_of_sumsUp {keys : List String} {demand : List SimulatedDemand}
    {entry : SimulatedDemand} (sums : List.Forall₂ (SumsUp items) keys demand)
    (member : entry ∈ demand) : bucket.amount entry = statedAmount bucket items entry.currency := by
  induction sums with
  | nil => cases member
  | cons first _ ih =>
      rcases List.mem_cons.mp member with rfl | later
      · rw [first.2 bucket, first.1]
      · exact ih later

/-- The demand of several runs is added up, and nothing is refused. -/
theorem sumDemand_adds (items : List SimulatedDemand) :
    ∃ demand, sumDemand items = .ok demand ∧
      (demand.map SimulatedDemand.currency).Nodup ∧
      (∀ currency, currency ∈ demand.map SimulatedDemand.currency ↔
        currency ∈ items.map SimulatedDemand.currency) ∧
      ∀ (bucket : SimulatedDemandBucket) currency,
        bucket.amountIn demand currency = statedAmount bucket items currency := by
  let potential := Tally.of items SimulatedDemand.currency SimulatedDemand.potentialAmountMinor
  have key (currency : String) : currency ∈ (KeyOrder.natural String).sortBy id potential.keys ↔
      currency ∈ items.map SimulatedDemand.currency := by
    rw [KeyOrder.mem_sortBy, Tally.mem_keys_of, List.mem_map]
  obtain ⟨demand, summed, sums⟩ := mapM_eq_ok fun currency listed =>
    make_sumsUp ((key currency).mp listed)
  have currencies := currencies_of_sumsUp sums
  refine ⟨demand, summed, ?_, ?_, ?_⟩
  · rw [currencies, (KeyOrder.sortBy_perm _ _ _).nodup_iff]
    exact potential.keysNodup
  · intro currency
    rw [currencies]
    exact key currency
  · intro bucket currency
    by_cases listed : currency ∈ demand.map SimulatedDemand.currency
    · have present : (demand.find? fun entry => entry.currency = currency).isSome = true := by
        rw [List.find?_isSome]
        obtain ⟨entry, member, same⟩ := List.mem_map.mp listed
        exact ⟨entry, member, decide_eq_true same⟩
      obtain ⟨entry, found⟩ := Option.isSome_iff_exists.mp present
      have same : entry.currency = currency := by simpa using List.find?_some found
      rw [SimulatedDemandBucket.amountIn, found, ← same]
      exact amount_of_sumsUp sums (List.mem_of_find?_eq_some found)
    · rw [SimulatedDemandBucket.amountIn_of_notMem listed, statedAmount_of_notMem]
      rw [currencies, key] at listed
      exact listed

end Demand

theorem reasonCount_append (first second : List (FailureReason × Nat)) (reason : FailureReason) :
    reasonCount (first ++ second) reason =
      reasonCount first reason + reasonCount second reason := by
  unfold reasonCount
  rw [List.map_append, List.sum_append]

theorem reasonCount_flatMap (read : BenchmarkMetrics → List (FailureReason × Nat))
    (reason : FailureReason) :
    reasonCount (measured.flatMap read) reason =
      (measured.map fun metrics => reasonCount (read metrics) reason).sum := by
  induction measured with
  | nil => rfl
  | cons metrics rest ih =>
      rw [List.flatMap_cons, reasonCount_append, ih, List.map_cons, List.sum_cons]

theorem nodup_failurePrecedence : failurePrecedence.Nodup := by
  decide

/-- Among distinct reasons, one of them is counted once. -/
theorem reasonCount_map {reasons : List FailureReason} (distinct : reasons.Nodup)
    (amount : FailureReason → Nat) (reason : FailureReason) :
    reasonCount (reasons.map fun other => (other, amount other)) reason =
      if reason ∈ reasons then amount reason else 0 := by
  induction reasons with
  | nil => rfl
  | cons first rest ih =>
      rw [List.nodup_cons] at distinct
      have counted := ih distinct.2
      unfold reasonCount at counted ⊢
      rw [List.map_cons, List.map_cons, List.sum_cons, counted]
      by_cases same : first = reason
      · subst same
        rw [if_pos rfl, if_neg distinct.1, if_pos (List.mem_cons_self)]
        rfl
      · rw [if_neg same, Nat.zero_add]
        have elsewhere : reason ∈ first :: rest ↔ reason ∈ rest := by
          rw [List.mem_cons]
          exact or_iff_right (Ne.symm same)
        simp only [elsewhere]

/-- The reasons of all runs are counted once each. -/
theorem reasonCount_sumReasonCounts (counts : List (FailureReason × Nat))
    (reason : FailureReason) :
    reasonCount (sumReasonCounts counts) reason = reasonCount counts reason := by
  unfold sumReasonCounts
  rw [reasonCount_map (nodup_failurePrecedence.filter _)]
  have amount : (Tally.of counts Prod.fst Prod.snd).amount reason = reasonCount counts reason :=
    Tally.amount_of reason
  split
  · exact amount
  · next absent =>
      rw [← amount, Tally.nothingElsewhere]
      intro listed
      exact absent (List.mem_filter.mpr ⟨mem_failurePrecedence reason, decide_eq_true listed⟩)

theorem mapM_stated (measured : List BenchmarkMetrics) :
    (measured.map some).mapM stated = .ok measured := by
  induction measured with
  | nil => rfl
  | cons metrics rest ih =>
      rw [List.map_cons, List.mapM_cons, ih]
      rfl

/-- The metrics of several runs are added up. -/
theorem sumMetrics_adds
    (once : ∀ metrics ∈ measured, (metrics.simulatedDemand.map SimulatedDemand.currency).Nodup) :
    ∃ total, sumMetrics (measured.map some) = .ok total ∧ Adds measured total := by
  obtain ⟨demand, summed, distinct, currencies, amounts⟩ :=
    sumDemand_adds (measured.flatMap BenchmarkMetrics.simulatedDemand)
  unfold sumMetrics
  rw [mapM_stated]
  simp only [bind, Except.bind, summed]
  refine ⟨_, rfl, ?_⟩
  constructor
  · intro field listed
    simp only [metricCounts, List.mem_cons, List.not_mem_nil, or_false] at listed
    rcases listed with rfl | rfl | rfl | rfl | rfl | rfl | rfl | rfl | rfl | rfl | rfl | rfl |
      rfl | rfl | rfl | rfl | rfl <;> rfl
  · intro reason
    rw [reasonCount_sumReasonCounts, reasonCount_flatMap]
  · intro reason
    rw [reasonCount_sumReasonCounts, reasonCount_flatMap]
  · intro bucket currency
    rw [← statedAmount_flatMap once]
    exact amounts bucket currency
  · intro currency
    rw [currencies]
    simp only [List.map_flatMap, List.mem_flatMap]
  · exact distinct
  · intro entry _
    rfl

variable {metrics : List (Option BenchmarkMetrics)}

/-- One run without metrics fails the assertion. -/
theorem mapM_stated_of_none (missing : none ∈ metrics) :
    metrics.mapM stated = .error .assertionError := by
  induction metrics with
  | nil => cases missing
  | cons first rest ih =>
      rw [List.mapM_cons]
      cases first with
      | none => rfl
      | some measured =>
          rw [ih (by simpa using missing)]
          rfl

theorem sumMetrics_of_none (missing : none ∈ metrics) :
    sumMetrics metrics = .error .assertionError := by
  rw [sumMetrics, mapM_stated_of_none missing]
  rfl

/-- Without such a run there is nothing but metrics. -/
theorem map_some_of_stated (stated : none ∉ metrics) :
    (metrics.filterMap id).map some = metrics := by
  induction metrics with
  | nil => rfl
  | cons first rest ih =>
      rw [List.mem_cons, not_or] at stated
      cases first with
      | none => exact absurd rfl stated.1
      | some measured =>
          change some measured :: (rest.filterMap id).map some = _
          rw [ih stated.2]

end AgentRank.Diagnostics.Experiment
