import AgentRank.Diagnostics.Findings
import AgentRank.Diagnostics.Primary

/-!
# Demand is conserved

The metrics and the findings of a run add up the demand of its missions separately.  A mission is
billed to the group of its primary finding and to no other, and whatever was lost or not measured
has a primary finding, so both come to the same amounts.
-/

namespace AgentRank.Diagnostics

open Benchmark Constraints Relational Store Text

section Keys

variable {finding other : MissionFinding}

/-- A key begins with the value of its code. -/
@[simp]
theorem keyHead_groupKey (finding : MissionFinding) :
    keyHead (groupKey finding) = finding.code.value := by
  have noColon : finding.code.value.toList.takeWhile (fun char => decide (char ≠ ':')) =
      finding.code.value.toList := by
    rw [List.takeWhile_eq_self_iff]
    intro char member
    refine decide_eq_true fun isColon => ?_
    exact DiagnosticCode.colon_notMem_value finding.code (isColon ▸ member)
  unfold keyHead groupKey
  split
  · rw [String.append_assoc, String.toList_append, List.takeWhile_append_of_pos]
    · rw [String.toList_append]
      change String.ofList (_ ++ List.takeWhile _ (':' :: _)) = _
      rw [List.takeWhile_cons_of_neg (by decide), List.append_nil, String.ofList_toList]
    · intro char member
      refine decide_eq_true fun isColon => ?_
      exact DiagnosticCode.colon_notMem_value finding.code (isColon ▸ member)
  · rw [noColon, String.ofList_toList]

theorem code_eq_of_groupKey_eq (same : groupKey finding = groupKey other) :
    finding.code = other.code := by
  have sameValue : finding.code.value = other.code.value := by
    rw [← keyHead_groupKey finding, same, keyHead_groupKey]
  have sameCode := congrArg DiagnosticCode.ofValue? sameValue
  rw [DiagnosticCode.ofValue?_value, DiagnosticCode.ofValue?_value] at sameCode
  exact Option.some.inj sameCode

end Keys

/-! ## Billing -/

section Billing

variable {diagnosis : MissionDiagnosis} {diagnoses : List MissionDiagnosis} {key : String}

theorem Sound.eq_of_code_eq (sound : Sound diagnosis) {finding other : MissionFinding}
    (member : finding ∈ diagnosis.findings) (otherMember : other ∈ diagnosis.findings)
    (same : finding.code = other.code) : finding = other :=
  List.inj_on_of_nodup_map sound.codes member otherMember same

theorem Sound.keys (sound : Sound diagnosis) : (diagnosis.findings.map groupKey).Nodup :=
  sound.codes.of_map.map_on fun _ member _ otherMember same =>
    sound.eq_of_code_eq member otherMember (code_eq_of_groupKey_eq same)

/-- A diagnosis is billed under the key of its primary finding. -/
theorem Sound.bills_iff (sound : Sound diagnosis) :
    bills key diagnosis = true ↔ diagnosis.primary.map groupKey = some key := by
  unfold bills
  cases isPrimary : diagnosis.primary with
  | none => split <;> simp_all
  | some primary =>
      have member := sound.primary primary isPrimary
      cases found : diagnosis.findings.find? fun finding => groupKey finding = key with
      | none =>
          have isOther : groupKey primary ≠ key := by
            simpa using List.find?_eq_none.mp found primary member
          simp [isOther]
      | some lead =>
          have leadMember := List.mem_of_find?_eq_some found
          have leadKey : groupKey lead = key := by simpa using List.find?_some found
          simp only [beq_iff_eq, Option.map_some, Option.some.injEq]
          constructor
          · intro same
            rw [sound.eq_of_code_eq member leadMember same, leadKey]
          · intro primaryKey
            exact code_eq_of_groupKey_eq (primaryKey.trans leadKey.symm)

/-- Where the keys of a mission are distinct, each finding is the first under its key. -/
theorem firstUnderKeys_eq_self {findings : List MissionFinding} {seen : List String}
    (unseen : ∀ finding ∈ findings, groupKey finding ∉ seen)
    (distinct : (findings.map groupKey).Nodup) : firstUnderKeys seen findings = findings := by
  induction findings generalizing seen with
  | nil => rfl
  | cons finding rest inductionHypothesis =>
      rcases List.nodup_cons.mp distinct with ⟨isNew, restDistinct⟩
      rcases List.forall_mem_cons.mp unseen with ⟨isUnseen, restUnseen⟩
      rw [firstUnderKeys, if_neg (by simpa using isUnseen)]
      rw [inductionHypothesis ?_ restDistinct]
      intro other member isSeen
      rcases List.mem_cons.mp isSeen with same | wasSeen
      · exact isNew (same ▸ List.mem_map_of_mem member)
      · exact restUnseen other member wasSeen

/-- What is billed under a key. -/
def billedUnder (diagnoses : List MissionDiagnosis) (key : String) : List MissionDiagnosis :=
  billed (((grouped diagnoses).members key).map Prod.snd) key

/-- What one diagnosis adds under a key, and what of it is billed there. -/
theorem Sound.billed_eq (sound : Sound diagnosis) :
    billed (((diagnosis.findings.filter fun finding => decide (groupKey finding = key)).map
        fun _ => diagnosis)) key =
      if diagnosis.primary.map groupKey = some key then [diagnosis] else [] := by
  rw [filter_eq_find?_toList sound.keys key]
  by_cases isBilled : diagnosis.primary.map groupKey = some key
  · rcases Option.map_eq_some_iff.mp isBilled with ⟨primary, isPrimary, primaryKey⟩
    have isFound : (diagnosis.findings.find? fun finding => groupKey finding = key).isSome = true :=
      List.find?_isSome.mpr ⟨primary, sound.primary primary isPrimary, decide_eq_true primaryKey⟩
    rcases Option.isSome_iff_exists.mp isFound with ⟨lead, found⟩
    rw [found, if_pos isBilled]
    change List.filter (bills key) [diagnosis] = _
    rw [List.filter_singleton, sound.bills_iff.mpr isBilled]
    rfl
  · rw [if_neg isBilled, billed, List.filter_eq_nil_iff]
    intro other member
    rcases List.mem_map.mp member with ⟨_, _, rfl⟩
    rw [sound.bills_iff]
    exact isBilled

/-- Under a key those are billed whose primary finding stands there. -/
theorem billedUnder_eq (sound : ∀ diagnosis ∈ diagnoses, Sound diagnosis) :
    billedUnder diagnoses key =
      diagnoses.filter fun diagnosis => decide (diagnosis.primary.map groupKey = some key) := by
  unfold billedUnder grouped
  rw [Grouping.members_of]
  induction diagnoses with
  | nil => rfl
  | cons diagnosis rest inductionHypothesis =>
      rcases List.forall_mem_cons.mp sound with ⟨isSound, restSound⟩
      have inOrder : firstUnderKeys [] diagnosis.findings = diagnosis.findings :=
        firstUnderKeys_eq_self (fun _ _ => List.not_mem_nil) isSound.keys
      have own : billed (((((firstUnderKeys [] diagnosis.findings).map fun finding =>
            (groupKey finding, finding, diagnosis)).filter fun entry =>
              decide (entry.1 = key)).map Prod.snd).map Prod.snd) key =
          if diagnosis.primary.map groupKey = some key then [diagnosis] else [] := by
        rw [inOrder, ← isSound.billed_eq, List.filter_map, List.map_map, List.map_map]
        rfl
      rw [List.flatMap_cons, List.filter_append, List.map_append, List.map_append, billed,
        List.filter_append]
      rw [billed] at own
      rw [own]
      refine (congrArg _ (inductionHypothesis restSound)).trans ?_
      by_cases isBilled : diagnosis.primary.map groupKey = some key
      · rw [if_pos isBilled, List.filter_cons, decide_eq_true isBilled]
        rfl
      · rw [if_neg isBilled, List.filter_cons, decide_eq_false isBilled]
        rfl

theorem mem_keys_grouped (sound : ∀ diagnosis ∈ diagnoses, Sound diagnosis) :
    key ∈ (grouped diagnoses).keys ↔
      ∃ diagnosis ∈ diagnoses, ∃ finding ∈ diagnosis.findings, groupKey finding = key := by
  unfold grouped
  rw [Grouping.mem_keys_of]
  simp only [List.mem_flatMap, List.mem_map, Prod.mk.injEq]
  constructor
  · rintro ⟨_, diagnosis, member, finding, findingMem, isKey, _⟩
    rw [firstUnderKeys_eq_self (fun _ _ => List.not_mem_nil) (sound diagnosis member).keys]
      at findingMem
    exact ⟨diagnosis, member, finding, findingMem, isKey⟩
  · rintro ⟨diagnosis, member, finding, findingMem, isKey⟩
    refine ⟨(finding, diagnosis), diagnosis, member, finding, ?_, isKey, rfl⟩
    rw [firstUnderKeys_eq_self (fun _ _ => List.not_mem_nil) (sound diagnosis member).keys]
    exact findingMem

/-- Over all keys those are billed that have a primary finding, and each of them once. -/
theorem billed_perm (sound : ∀ diagnosis ∈ diagnoses, Sound diagnosis) :
    ((grouped diagnoses).keys.flatMap (billedUnder diagnoses)).Perm
      (diagnoses.filter fun diagnosis => diagnosis.primary.isSome) := by
  have spread := flatMap_filter_perm (grouped diagnoses).keysNodup diagnoses
    fun diagnosis => diagnosis.primary.map groupKey
  have same : (grouped diagnoses).keys.flatMap (billedUnder diagnoses) =
      (grouped diagnoses).keys.flatMap fun key => diagnoses.filter fun diagnosis =>
        decide (diagnosis.primary.map groupKey = some key) := by
    congr 1
    funext key
    exact billedUnder_eq sound
  rw [same]
  refine spread.trans (List.Perm.of_eq ?_)
  refine List.filter_congr fun diagnosis member => ?_
  cases isPrimary : diagnosis.primary with
  | none => simp
  | some primary =>
      have isKey : groupKey primary ∈ (grouped diagnoses).keys :=
        (mem_keys_grouped sound).mpr
          ⟨diagnosis, member, primary, (sound diagnosis member).primary primary isPrimary, rfl⟩
      simp [isKey]

end Billing

/-- What some effects add up to in one currency and bucket. -/
def amountIn (effects : List SimulatedDemandEffect) (currency : String) (bucket : DemandBucket) :
    Nat :=
  (effects.map fun effect =>
    if (effect.currency, effect.bucket) = (currency, bucket) then effect.amountMinor else 0).sum

section Amounts

variable {currency : String} {bucket : DemandBucket}

theorem amountIn_flatMap {α : Type} (items : List α) (effects : α → List SimulatedDemandEffect) :
    amountIn (items.flatMap effects) currency bucket =
      (items.map fun item => amountIn (effects item) currency bucket).sum := by
  induction items with
  | nil => rfl
  | cons first rest inductionHypothesis =>
      rw [List.flatMap_cons, List.map_cons, List.sum_cons, ← inductionHypothesis, amountIn,
        List.map_append, List.sum_append]
      rfl

/-- One key out of distinct ones is counted once. -/
theorem sum_at_key {κ : Type} [DecidableEq κ] {keys : List κ} (distinct : keys.Nodup)
    (amount : κ → Nat) (key : κ) :
    (keys.map fun other => if other = key then amount other else 0).sum =
      if key ∈ keys then amount key else 0 := by
  induction keys with
  | nil => rfl
  | cons first rest inductionHypothesis =>
      rcases List.nodup_cons.mp distinct with ⟨isNew, restDistinct⟩
      rw [List.map_cons, List.sum_cons, inductionHypothesis restDistinct]
      by_cases isFirst : first = key
      · subst isFirst
        simp [isNew]
      · simp [isFirst, Ne.symm isFirst]

/-- Adding up in each currency and bucket changes no amount. -/
theorem amountIn_totals (effects : List SimulatedDemandEffect) :
    amountIn (totals effects) currency bucket = amountIn effects currency bucket := by
  have pairs := @Tally.amount_of _ _ _ effects (fun effect => (effect.currency, effect.bucket))
    SimulatedDemandEffect.amountMinor (currency, bucket)
  change _ = amountIn effects currency bucket at pairs
  rw [← pairs]
  unfold amountIn totals
  dsimp only
  rw [List.map_map]
  have sorted := List.mergeSort_perm (Tally.of effects
    (fun effect => (effect.currency, effect.bucket)) SimulatedDemandEffect.amountMinor).keys
    fun first second => decide (toLex (first.1, first.2.order) ≤ toLex (second.1, second.2.order))
  refine ((sorted.map _).sum_eq).trans ?_
  refine (sum_at_key (Tally.of effects (fun effect => (effect.currency, effect.bucket))
    SimulatedDemandEffect.amountMinor).keysNodup _ (currency, bucket)).trans ?_
  split
  · rfl
  · next absent => exact (Tally.nothingElsewhere _ _ absent).symm

end Amounts

/-! ## Groups -/

section Groups

variable {diagnoses : List MissionDiagnosis} {group : FindingGroup}

theorem mem_groupsOf (member : group ∈ groupsOf diagnoses) :
    (grouped diagnoses).members group.key = group.first :: group.rest := by
  rcases List.mem_filterMap.mp member with ⟨key, _, isGroup⟩
  split at isGroup
  · cases isGroup
  · next isMembers =>
      cases isGroup
      exact isMembers

/-- A group stands under the key of its first finding. -/
theorem key_of_mem_groupsOf (member : group ∈ groupsOf diagnoses) :
    group.key = groupKey group.first.1 := by
  have isMember : group.first ∈ (grouped diagnoses).members group.key := by
    rw [mem_groupsOf member]
    exact List.mem_cons_self
  rw [grouped, Grouping.members_of] at isMember
  rcases List.mem_map.mp isMember with ⟨entry, isEntry, isFirst⟩
  rcases List.mem_filter.mp isEntry with ⟨listed, sameKey⟩
  rcases List.mem_flatMap.mp listed with ⟨diagnosis, _, isMapped⟩
  rcases List.mem_map.mp isMapped with ⟨finding, _, rfl⟩
  rw [← isFirst, ← of_decide_eq_true sameKey]

/-- Every key has a group. -/
theorem map_key_groupsOf : (groupsOf diagnoses).map FindingGroup.key = (grouped diagnoses).keys := by
  have nonempty : ∀ key ∈ (grouped diagnoses).keys, (grouped diagnoses).members key ≠ [] := by
    intro key member isEmpty
    rcases Grouping.mem_keys_of.mp member with ⟨item, isEntry⟩
    have isMember : item ∈ (grouped diagnoses).members key := by
      rw [grouped, Grouping.members_of]
      exact List.mem_map.mpr
        ⟨(key, item), List.mem_filter.mpr ⟨isEntry, decide_eq_true rfl⟩, rfl⟩
    rw [isEmpty] at isMember
    exact List.not_mem_nil isMember
  unfold groupsOf
  generalize (grouped diagnoses).keys = keys at nonempty
  induction keys with
  | nil => rfl
  | cons key rest inductionHypothesis =>
      rcases List.forall_mem_cons.mp nonempty with ⟨hasMembers, restNonempty⟩
      cases members : (grouped diagnoses).members key with
      | nil => exact absurd members hasMembers
      | cons first others =>
          rw [List.filterMap_cons, members]
          dsimp only
          rw [List.map_cons, inductionHypothesis restNonempty]

/-- No title is refused. -/
theorem title_ok {key : String} {code : DiagnosticCode} (head : keyHead key = code.value)
    (missions : Nat) (attributes : List String) :
    ∃ text, title key missions attributes = .ok text := by
  unfold title
  dsimp only
  split
  · exact ⟨_, rfl⟩
  · rw [head, DiagnosticCode.ofValue?_value]
    exact ⟨_, rfl⟩

/-- A group makes one finding, which states the demand that is billed to it. -/
theorem finding_ok (member : group ∈ groupsOf diagnoses) :
    ∃ finding, group.finding = .ok finding ∧ finding.key = group.key ∧
      finding.simulatedDemand =
        totals ((billedUnder diagnoses finding.key).flatMap MissionDiagnosis.simulatedDemand) := by
  have head : keyHead group.key = group.first.1.code.value := by
    rw [key_of_mem_groupsOf member, keyHead_groupKey]
  rcases title_ok head (group.contributing.map MissionDiagnosis.missionRunId).eraseDups.length
    (group.members.flatMap MissionFinding.attributeKeys).eraseDups with ⟨text, isTitle⟩
  have made : ∃ finding, group.finding = .ok finding ∧ finding.key = group.key ∧
      finding.simulatedDemand = demand group.contributing group.key := by
    simp only [FindingGroup.finding, isTitle]
    exact ⟨_, rfl, rfl, rfl⟩
  rcases made with ⟨finding, isMade, sameKey, demanded⟩
  refine ⟨finding, isMade, sameKey, ?_⟩
  rw [demanded, demand, sameKey, billedUnder, mem_groupsOf member]
  rfl

/-- Findings are never refused, and there is one for each key. -/
theorem aggregateFindings_ok (diagnoses : List MissionDiagnosis) :
    ∃ findings, aggregateFindings diagnoses = .ok findings ∧
      (findings.map MerchantFinding.key).Perm (grouped diagnoses).keys ∧
        ∀ finding ∈ findings, finding.simulatedDemand =
          totals ((billedUnder diagnoses finding.key).flatMap MissionDiagnosis.simulatedDemand) := by
  have sorted := List.mergeSort_perm (groupsOf diagnoses)
    fun first second => decide (first.order ≤ second.order)
  rcases mapM_eq_ok fun group member => finding_ok (sorted.mem_iff.mp member) with
    ⟨findings, aggregated, made⟩
  refine ⟨findings, aggregated, ?_⟩
  clear aggregated
  generalize (groupsOf diagnoses).mergeSort (fun first second => decide (first.order ≤ second.order)) =
    groups at sorted made
  rw [← map_key_groupsOf]
  have sameKeys : findings.map MerchantFinding.key = groups.map FindingGroup.key := by
    clear sorted
    induction made with
    | nil => rfl
    | cons isMade _ inductionHypothesis =>
        rw [List.map_cons, List.map_cons, inductionHypothesis, isMade.1]
  refine ⟨sameKeys ▸ sorted.map FindingGroup.key, ?_⟩
  clear sorted sameKeys
  induction made with
  | nil => exact fun _ member => absurd member List.not_mem_nil
  | cons isMade _ inductionHypothesis =>
      exact List.forall_mem_cons.mpr ⟨isMade.2, inductionHypothesis⟩

end Groups

/-! ## The two sums -/

/-- What findings state of one currency and bucket. -/
def billedIn (findings : List MerchantFinding) (currency : String) (bucket : DemandBucket) : Nat :=
  (findings.map fun finding => amountIn finding.simulatedDemand currency bucket).sum

/-- What metrics state of one currency, which is nothing where they have no entry. -/
def demandOf (metrics : BenchmarkMetrics) (currency : String) : Option SimulatedDemand :=
  metrics.simulatedDemand.find? fun demand => demand.currency = currency

/-- The outcomes whose value lands in a bucket. -/
def lands (bucket : DemandBucket) (outcome : MissionOutcome) : Bool :=
  match bucket with
  | .captured => outcome.purchaseWasAvailable && outcome.isCaptured
  | .notMeasured =>
      outcome.purchaseWasAvailable && !outcome.isCaptured && outcome.isUnmeasured
  | .atRisk => outcome.purchaseWasAvailable && !outcome.isCaptured && !outcome.isUnmeasured

def MissionRunFacts.outcome (facts : MissionRunFacts) : MissionOutcome :=
  outcomeOf facts.mission facts.evaluation

section Sums

variable {currency : String} {bucket : DemandBucket}

theorem sum_map_filter {α : Type} (items : List α) (counts : α → Bool) (amount : α → Nat) :
    ((items.filter counts).map amount).sum =
      (items.map fun item => if counts item then amount item else 0).sum := by
  induction items with
  | nil => rfl
  | cons first rest inductionHypothesis =>
      rw [List.map_cons, List.sum_cons, ← inductionHypothesis]
      cases counted : counts first <;> simp [counted]

theorem worth_eq_sum (outcomes : List MissionOutcome) (counts : MissionOutcome → Bool) :
    worth outcomes currency counts =
      (outcomes.map fun outcome => if counts outcome && outcome.currency == currency then
        outcome.simulatedValueAmountMinor else 0).sum :=
  sum_map_filter _ _ _

/-- The metrics of a run state what its outcomes are worth. -/
theorem computeMetrics_worth (outcomes : List MissionOutcome) :
    ∃ metrics, computeMetrics outcomes = .ok metrics ∧ ∀ currency,
      ((demandOf metrics currency).map SimulatedDemand.lostAmountMinor).getD 0 =
          worth outcomes currency (lands .atRisk) ∧
        ((demandOf metrics currency).map SimulatedDemand.notMeasuredAmountMinor).getD 0 =
          worth outcomes currency (lands .notMeasured) ∧
        ((demandOf metrics currency).map SimulatedDemand.capturedAmountMinor).getD 0 =
          worth outcomes currency (lands .captured) := by
  rcases simulatedDemand_accounts outcomes with ⟨demand, reported, listed, accounted⟩
  have computed : ∃ metrics, computeMetrics outcomes = .ok metrics ∧
      metrics.simulatedDemand = demand := by
    simp only [computeMetrics, reported]
    exact ⟨_, rfl, rfl⟩
  rcases computed with ⟨metrics, computed, rfl⟩
  refine ⟨metrics, computed, fun currency => ?_⟩
  cases found : demandOf metrics currency with
  | some entry =>
      have accounts := accounted entry (List.mem_of_find?_eq_some found)
      have sameCurrency : entry.currency = currency := by simpa using List.find?_some found
      rw [← sameCurrency]
      exact ⟨accounts.lost, accounts.notMeasured, accounts.captured⟩
  | none =>
      have noEntry : currency ∉ currencies outcomes := by
        rw [← listed]
        intro member
        rcases List.mem_map.mp member with ⟨entry, entryMem, sameCurrency⟩
        simpa [sameCurrency] using List.find?_eq_none.mp found entry entryMem
      have nothing : ∀ bucket, worth outcomes currency (lands bucket) = 0 := by
        intro bucket
        rw [worth, List.sum_eq_zero_iff]
        intro value isValue
        rcases List.mem_map.mp isValue with ⟨outcome, isCounted, rfl⟩
        rcases List.mem_filter.mp isCounted with ⟨member, counts⟩
        rw [Bool.and_eq_true, beq_iff_eq] at counts
        have available : outcome.purchaseWasAvailable = true := by
          cases bucket <;> simp_all [lands]
        exact absurd (mem_currencies.mpr ⟨outcome, member, available, counts.2⟩) noEntry
      simp [nothing]

/-- The bucket that a status stands for. -/
def bucketOf (status : MissionRunStatus) : DemandBucket :=
  if status = .succeeded then .captured
  else if status = .errored ∨ ¬ (decide (status ∈ terminalMissionStatuses) = true) then .notMeasured
  else .atRisk

theorem lands_eq {outcome : MissionOutcome} (available : outcome.purchaseWasAvailable = true) :
    lands bucket outcome = decide (bucketOf outcome.status = bucket) := by
  unfold lands MissionOutcome.isCaptured MissionOutcome.isUnmeasured MissionOutcome.isFinished
  rw [available]
  generalize outcome.status = status
  cases status <;> cases bucket <;> rfl

variable [CaseFolding]

/-- The effect of a mission is its value, in the bucket that its outcome lands in. -/
theorem amountIn_diagnosis (facts : MissionRunFacts) :
    amountIn facts.diagnosis.simulatedDemand currency bucket =
      if lands bucket facts.outcome && facts.outcome.currency == currency then
        facts.outcome.simulatedValueAmountMinor else 0 := by
  change amountIn (demandEffect facts.evidence) currency bucket = _
  by_cases worthless : facts.mission.oracle.simulatedValueAmountMinor = 0
  · have noValue : facts.outcome.simulatedValueAmountMinor = 0 := worthless
    have noEffect : demandEffect facts.evidence = [] :=
      if_pos (Bool.or_eq_true_iff.mpr (Or.inr (decide_eq_true worthless.le)))
    rw [noEffect, noValue, ite_self]
    rfl
  · have hasValue : ¬ facts.evidence.simulatedValueAmountMinor ≤ 0 :=
      fun atMost => worthless (Nat.le_zero.mp atMost)
    cases expected : facts.mission.oracle.expectedOutcome with
    | noAcceptablePurchase =>
        have control : facts.evidence.purchaseWasAvailable = false := decide_eq_false fun available => by
          cases expected.symm.trans available
        have controlOutcome : facts.outcome.purchaseWasAvailable = false := control
        cases bucket <;> simp [demandEffect, control, amountIn, lands, controlOutcome]
    | purchaseAvailable =>
        have available : facts.evidence.purchaseWasAvailable = true := decide_eq_true expected
        have availableOutcome : facts.outcome.purchaseWasAvailable = true := available
        have effect : demandEffect facts.evidence =
            [{ currency := facts.mission.currency
               bucket := bucketOf facts.evaluation.status
               amountMinor := facts.mission.oracle.simulatedValueAmountMinor }] :=
          if_neg (by simpa [available] using hasValue)
        rw [effect, lands_eq availableOutcome]
        simp only [amountIn, List.map_singleton, List.sum_singleton, Prod.mk.injEq,
          Bool.and_eq_true, decide_eq_true_eq, beq_iff_eq]
        exact if_congr and_comm rfl rfl

/-- What was lost or not measured went wrong or was not measured. -/
theorem unserved_of_lands {facts : MissionRunFacts} (left : LeftBy facts.mission facts.evaluation)
    (landed : lands bucket facts.outcome = true) (unbought : bucket ≠ .captured) :
    Unserved facts.evaluation := by
  have available : facts.outcome.purchaseWasAvailable = true := by
    cases bucket <;> simp_all [lands]
  rw [lands_eq available, decide_eq_true_eq] at landed
  cases status : facts.evaluation.status with
  | failed => exact .failed status
  | errored => exact .errored status
  | pending | running =>
      refine .unfinished ?_
      rw [status]
      decide
  | succeeded =>
      have succeeded : facts.outcome.status = .succeeded := status
      rw [succeeded] at landed
      exact absurd landed.symm unbought
  | abstained =>
      refine .abstained status ?_
      rcases marked_or_unmarked left with ⟨observed, merchantId, catalog, fault, marked⟩ |
        isPending | isRunning
      · exact reasons_of_abstained marked status (of_decide_eq_true available)
      · cases status.symm.trans isPending
      · cases status.symm.trans isRunning

variable {run : List MissionRunFacts} {findings : List MerchantFinding}

/-- What the findings of a run state is the value of the missions with a primary finding. -/
theorem billedIn_eq
    (perm : (findings.map MerchantFinding.key).Perm
      (grouped (run.map MissionRunFacts.diagnosis)).keys)
    (states : ∀ finding ∈ findings, finding.simulatedDemand =
      totals ((billedUnder (run.map MissionRunFacts.diagnosis) finding.key).flatMap
        MissionDiagnosis.simulatedDemand)) :
    billedIn findings currency bucket =
      (run.map fun facts => if facts.diagnosis.primary.isSome then
        amountIn facts.diagnosis.simulatedDemand currency bucket else 0).sum := by
  have sound : ∀ diagnosis ∈ run.map MissionRunFacts.diagnosis, Sound diagnosis := by
    intro diagnosis member
    rcases List.mem_map.mp member with ⟨facts, _, rfl⟩
    exact diagnoseMission_sound facts.evidence
  calc billedIn findings currency bucket
      = ((findings.map MerchantFinding.key).map fun key => amountIn
          ((billedUnder (run.map MissionRunFacts.diagnosis) key).flatMap
            MissionDiagnosis.simulatedDemand) currency bucket).sum := by
        rw [billedIn, List.map_map]
        congr 1
        apply List.map_congr_left
        intro finding member
        rw [states finding member, amountIn_totals]
        rfl
    _ = ((grouped (run.map MissionRunFacts.diagnosis)).keys.map fun key => amountIn
          ((billedUnder (run.map MissionRunFacts.diagnosis) key).flatMap
            MissionDiagnosis.simulatedDemand) currency bucket).sum :=
        (perm.map _).sum_eq
    _ = (((grouped (run.map MissionRunFacts.diagnosis)).keys.flatMap
          (billedUnder (run.map MissionRunFacts.diagnosis))).map fun diagnosis =>
            amountIn diagnosis.simulatedDemand currency bucket).sum := by
        rw [← amountIn_flatMap, ← List.flatMap_assoc, amountIn_flatMap]
    _ = (((run.map MissionRunFacts.diagnosis).filter fun diagnosis =>
          diagnosis.primary.isSome).map fun diagnosis =>
            amountIn diagnosis.simulatedDemand currency bucket).sum :=
        ((billed_perm sound).map _).sum_eq
    _ = _ := by
        rw [sum_map_filter, List.map_map]
        rfl

/-- What was lost or not measured is billed. -/
theorem billedIn_eq_worth (left : ∀ facts ∈ run, LeftBy facts.mission facts.evaluation)
    (billed : billedIn findings currency bucket =
      (run.map fun facts => if facts.diagnosis.primary.isSome then
        amountIn facts.diagnosis.simulatedDemand currency bucket else 0).sum)
    (unbought : bucket ≠ .captured) :
    billedIn findings currency bucket =
      worth (run.map MissionRunFacts.outcome) currency (lands bucket) := by
  rw [billed, worth_eq_sum, List.map_map]
  congr 1
  apply List.map_congr_left
  intro facts member
  rw [amountIn_diagnosis]
  by_cases landed : lands bucket facts.outcome = true
  · have unserved := unserved_of_lands (left facts member) landed unbought
    rw [primary_of_unserved (left facts member) unserved]
    rfl
  · rw [Bool.not_eq_true] at landed
    simp [landed]

/-- Of what was captured no more is billed than there is. -/
theorem billedIn_le_worth
    (billed : billedIn findings currency bucket =
      (run.map fun facts => if facts.diagnosis.primary.isSome then
        amountIn facts.diagnosis.simulatedDemand currency bucket else 0).sum) :
    billedIn findings currency bucket ≤
      worth (run.map MissionRunFacts.outcome) currency (lands bucket) := by
  rw [billed, worth_eq_sum, List.map_map]
  apply List.sum_le_sum
  intro facts _
  rw [amountIn_diagnosis]
  split
  · exact le_refl _
  · exact Nat.zero_le _

end Sums

/-- What metrics and findings state of one currency fits together. -/
structure Conserved (metrics : BenchmarkMetrics) (findings : List MerchantFinding)
    (currency : String) : Prop where
  lost : (billedIn findings currency .atRisk : Int) =
    ((demandOf metrics currency).map SimulatedDemand.lostAmountMinor).getD 0
  notMeasured : billedIn findings currency .notMeasured =
    ((demandOf metrics currency).map SimulatedDemand.notMeasuredAmountMinor).getD 0
  captured : billedIn findings currency .captured ≤
    ((demandOf metrics currency).map SimulatedDemand.capturedAmountMinor).getD 0

/-- Findings state the demand of the missions that they are billed for, and no mission is billed
twice. -/
structure BilledOnce (diagnoses : List MissionDiagnosis) (findings : List MerchantFinding) :
    Prop where
  keys : (findings.map MerchantFinding.key).Nodup
  states : ∀ finding ∈ findings, finding.simulatedDemand =
    totals ((billedUnder diagnoses finding.key).flatMap MissionDiagnosis.simulatedDemand)
  once : ((findings.map MerchantFinding.key).flatMap (billedUnder diagnoses)).Subperm diagnoses

/-- Over the missions of a run, whatever they left and whatever was traced: metrics and findings
state the same lost and unmeasured demand in every currency, every mission is billed to at most
one finding, and what went wrong or was not measured has a primary finding. -/
theorem demand_conserved [CaseFolding] (run : List MissionRunFacts)
    (left : ∀ facts ∈ run, LeftBy facts.mission facts.evaluation) :
    ∃ metrics findings, computeMetrics (run.map MissionRunFacts.outcome) = .ok metrics ∧
      aggregateFindings (run.map MissionRunFacts.diagnosis) = .ok findings ∧
      (∀ currency, Conserved metrics findings currency) ∧
      BilledOnce (run.map MissionRunFacts.diagnosis) findings ∧
      ∀ facts ∈ run, Unserved facts.evaluation → facts.diagnosis.primary.isSome = true := by
  rcases computeMetrics_worth (run.map MissionRunFacts.outcome) with ⟨metrics, computed, worths⟩
  rcases aggregateFindings_ok (run.map MissionRunFacts.diagnosis) with
    ⟨findings, aggregated, perm, states⟩
  have sound : ∀ diagnosis ∈ run.map MissionRunFacts.diagnosis, Sound diagnosis := by
    intro diagnosis member
    rcases List.mem_map.mp member with ⟨facts, _, rfl⟩
    exact diagnoseMission_sound facts.evidence
  refine ⟨metrics, findings, computed, aggregated, fun currency => ?_, ?_, ?_⟩
  · rcases worths currency with ⟨lost, notMeasured, captured⟩
    constructor
    · rw [lost, billedIn_eq_worth left (billedIn_eq perm states) (by decide)]
    · rw [notMeasured, billedIn_eq_worth left (billedIn_eq perm states) (by decide)]
    · rw [captured]
      exact billedIn_le_worth (billedIn_eq perm states)
  · constructor
    · exact perm.nodup_iff.mpr (grouped _).keysNodup
    · exact states
    · have spread := (perm.flatMap_right (billedUnder (run.map MissionRunFacts.diagnosis))).trans
        (billed_perm sound)
      exact spread.subperm.trans List.filter_sublist.subperm
  · exact fun facts member unserved => primary_of_unserved (left facts member) unserved

section Sample

local instance demandFolding : CaseFolding := asciiFolding

/-- A buyer that named nothing, and a mission that is still running. -/
def sampleRun : List MissionRunFacts :=
  [{ runId := 1
     id := 2
     mission := sampleMission
     evaluation := evaluateMission sampleMission { merchantId := 1 } 1 none none },
   { runId := 1
     id := 3
     mission := sampleMission
     evaluation := unmarked .running }]

theorem demand_conserved_sample :
    ∃ metrics findings, computeMetrics (sampleRun.map MissionRunFacts.outcome) = .ok metrics ∧
      aggregateFindings (sampleRun.map MissionRunFacts.diagnosis) = .ok findings ∧
      (∀ currency, Conserved metrics findings currency) ∧
      BilledOnce (sampleRun.map MissionRunFacts.diagnosis) findings ∧
      ∀ facts ∈ sampleRun, Unserved facts.evaluation → facts.diagnosis.primary.isSome = true := by
  refine demand_conserved sampleRun ?_
  intro facts member
  simp only [sampleRun, List.mem_cons, List.not_mem_nil, or_false] at member
  rcases member with rfl | rfl
  · exact .marked { merchantId := 1 } 1 none none
  · exact .running

end Sample

end AgentRank.Diagnostics
