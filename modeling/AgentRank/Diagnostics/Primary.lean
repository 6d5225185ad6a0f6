import AgentRank.Benchmark.MetricBounds
import AgentRank.Diagnostics.Mission

/-!
# The primary finding

The findings of a diagnosis have pairwise distinct codes, and the primary one is among them.
Every reason that the evaluator can give is covered by a rule that finds a code which may lead,
so a mission that went wrong or was not measured has a primary finding.
-/

namespace AgentRank.Diagnostics

open Benchmark Constraints Store Text

section Ordered

variable {unique findings : List MissionFinding} {finding : MissionFinding}

theorem map_code_noteFinding :
    (noteFinding unique finding).map MissionFinding.code =
      if finding.code ∈ unique.map MissionFinding.code then unique.map MissionFinding.code
      else unique.map MissionFinding.code ++ [finding.code] := by
  unfold noteFinding
  by_cases known : finding.code ∈ unique.map MissionFinding.code
  · rw [if_pos known, if_pos (by simpa using known), List.map_map]
    apply List.map_congr_left
    intro existing _
    simp only [Function.comp_apply]
    split <;> rfl
  · rw [if_neg known, if_neg (by simpa using known), List.map_append, List.map_singleton]

/-- Merging keeps the codes distinct and loses none. -/
theorem codes_noted (distinct : (unique.map MissionFinding.code).Nodup) :
    ((findings.foldl noteFinding unique).map MissionFinding.code).Nodup ∧
      ∀ code, code ∈ (findings.foldl noteFinding unique).map MissionFinding.code ↔
        code ∈ unique.map MissionFinding.code ∨ code ∈ findings.map MissionFinding.code := by
  induction findings generalizing unique with
  | nil => exact ⟨distinct, fun code => by simp⟩
  | cons first rest inductionHypothesis =>
      have noted := @map_code_noteFinding unique first
      by_cases known : first.code ∈ unique.map MissionFinding.code
      · rw [if_pos known] at noted
        rcases inductionHypothesis (noted ▸ distinct) with ⟨nodup, isCode⟩
        refine ⟨nodup, fun code => ?_⟩
        rw [List.foldl_cons, isCode, noted, List.map_cons, List.mem_cons]
        constructor
        · exact Or.imp_right Or.inr
        · rintro (isOld | rfl | isLater)
          · exact Or.inl isOld
          · exact Or.inl known
          · exact Or.inr isLater
      · rw [if_neg known] at noted
        have stillDistinct : ((noteFinding unique first).map MissionFinding.code).Nodup := by
          rw [noted, List.nodup_append_comm]
          exact List.nodup_cons.mpr ⟨known, distinct⟩
        rcases inductionHypothesis stillDistinct with ⟨nodup, isCode⟩
        refine ⟨nodup, fun code => ?_⟩
        rw [List.foldl_cons, isCode, noted, List.mem_append, List.mem_singleton, List.map_cons,
          List.mem_cons, or_assoc]

/-- What is looked up under its code has that code. -/
theorem map_code_lookups {codes : List DiagnosticCode}
    (known : ∀ code ∈ codes, code ∈ unique.map MissionFinding.code) :
    (codes.filterMap fun code => unique.find? fun finding => finding.code = code).map
      MissionFinding.code = codes := by
  induction codes with
  | nil => rfl
  | cons code rest inductionHypothesis =>
      rcases List.forall_mem_cons.mp known with ⟨isKnown, restKnown⟩
      rcases List.mem_map.mp isKnown with ⟨finding, member, isCode⟩
      have isSome : (unique.find? fun finding => finding.code = code).isSome = true :=
        List.find?_isSome.mpr ⟨finding, member, decide_eq_true isCode⟩
      rcases Option.isSome_iff_exists.mp isSome with ⟨found, isFound⟩
      have foundCode : found.code = code := by simpa using List.find?_some isFound
      rw [List.filterMap_cons, isFound, List.map_cons, inductionHypothesis restKnown, foundCode]

/-- The findings of a diagnosis have distinct codes, which are those that the rules found. -/
theorem codes_ordered :
    ((ordered findings).map MissionFinding.code).Nodup ∧
      ∀ code, code ∈ (ordered findings).map MissionFinding.code ↔
        code ∈ findings.map MissionFinding.code := by
  rcases @codes_noted [] findings List.nodup_nil with ⟨nodup, isCode⟩
  have looked : (ordered findings).map MissionFinding.code =
      sortCodes ((findings.foldl noteFinding []).map MissionFinding.code) :=
    map_code_lookups fun code member => mem_sortCodes.mp member
  rw [looked]
  refine ⟨sortCodes_nodup nodup, fun code => ?_⟩
  rw [mem_sortCodes, isCode]
  exact or_iff_right (List.not_mem_nil)

end Ordered

/-- The codes of a diagnosis are distinct, and what leads it is among its findings. -/
structure Sound (diagnosis : MissionDiagnosis) : Prop where
  codes : (diagnosis.findings.map MissionFinding.code).Nodup
  primary : ∀ finding, diagnosis.primary = some finding → finding ∈ diagnosis.findings

section Diagnosis

variable (evidence : MissionDiagnosisInput)

theorem diagnoseMission_sound [CaseFolding] : Sound (diagnoseMission evidence) where
  codes := codes_ordered.1
  primary := by
    intro finding isPrimary
    rcases Option.bind_eq_some_iff.mp isPrimary with ⟨lead, _, isFound⟩
    exact List.mem_of_find?_eq_some isFound

/-- Something that may lead was found. -/
def Leads (findings : List MissionFinding) : Prop :=
  findings.any (fun finding => isEligible finding.code) = true

/-- Where a rule found something that may lead, there is a primary finding. -/
theorem primary_isSome [CaseFolding] (leads : Leads (allFindings evidence)) :
    (diagnoseMission evidence).primary.isSome = true := by
  rcases List.any_eq_true.mp leads with ⟨finding, member, eligible⟩
  have isCode : finding.code ∈ (ordered (allFindings evidence)).map MissionFinding.code :=
    (codes_ordered.2 finding.code).mpr (List.mem_map_of_mem member)
  have someLead : (primaryCode
      ((ordered (allFindings evidence)).map MissionFinding.code)).isSome = true :=
    primaryCode_isSome_iff.mpr ⟨finding.code, isCode, eligible⟩
  rcases Option.isSome_iff_exists.mp someLead with ⟨lead, isLead⟩
  rcases List.mem_map.mp (mem_of_primaryCode isLead) with ⟨leading, leadingMem, leadingCode⟩
  have isFound : ((ordered (allFindings evidence)).find? fun finding =>
      finding.code = lead).isSome = true :=
    List.find?_isSome.mpr ⟨leading, leadingMem, decide_eq_true leadingCode⟩
  change (Option.bind _ _).isSome = true
  rw [isLead]
  exact isFound

theorem leads_of_outage (outage : evidence.providerOutageTerminated = true) :
    Leads (providerFaultRules evidence) := by
  simp only [MissionDiagnosisInput.providerOutageTerminated, Option.any_eq_true] at outage
  rcases outage with ⟨trace, isTrace, faults, isFaults, terminated⟩
  have found : evidence.trace.bind TraceFacts.providerFaults = some faults := by
    rw [isTrace]
    exact isFaults
  unfold providerFaultRules
  rw [found]
  dsimp only
  rw [if_pos terminated]
  rfl

/-- A reason is covered where a rule that reads it finds something that may lead. -/
theorem leads_of_selectionReason {reason : FailureReason}
    (isRead : reason ∈ selectionReasonMap.map Prod.fst) (given : reason ∈ evidence.failureReasons) :
    Leads (selectionRule evidence) := by
  rcases List.mem_map.mp isRead with ⟨entry, member, rfl⟩
  have detailed : entry.2 ∈ (selectionReasonMap.filter fun entry =>
      decide (entry.1 ∈ evidence.failureReasons)).map Prod.snd :=
    List.mem_map_of_mem (List.mem_filter.mpr ⟨member, decide_eq_true given⟩)
  unfold selectionRule
  dsimp only
  rw [if_neg fun isEmpty => by
    rw [List.isEmpty_iff] at isEmpty
    rw [isEmpty] at detailed
    exact List.not_mem_nil detailed]
  rfl

variable [CaseFolding]

/-- Every reason but a bypass is covered by a rule. -/
theorem leads_of_reason {reason : FailureReason} (given : reason ∈ evidence.failureReasons)
    (isOther : reason ≠ .enforcementBypassed) : Leads (allFindings evidence) := by
  unfold allFindings Leads
  simp only [List.any_append, Bool.or_eq_true]
  cases reason with
  | enforcementBypassed => exact absurd rfl isOther
  | wrongMerchant | currencyMismatch | budgetExceeded | constraintViolation | invalidVariant
  | quantityMismatch =>
      have leads := leads_of_selectionReason evidence (by decide) given
      simp only [Leads] at leads
      simp only [leads, or_true, true_or]
  | merchantApiError => simp [surfaceErrorRule, given, isEligible_iff, secondaryOrder]
  | agentReasoningError => simp [contradictionRule, given, isEligible_iff, secondaryOrder]
  | categoryMissing | attributeMissing | attributeUnreadable =>
      simp [merchantDataRules, given, isEligible_iff, secondaryOrder]
  | checkoutCreationFailed => simp [checkoutRefusalRule, given, isEligible_iff, secondaryOrder]
  | paymentFailed | paymentUnresolved =>
      simp [paymentRules, given, isEligible_iff, secondaryOrder]
  | unexpectedPurchase => simp [groundTruthRule, given, isEligible_iff, secondaryOrder]
  | inventoryUnavailable =>
      cases available : evidence.purchaseWasAvailable <;>
        simp [stockRule, given, available, isEligible_iff, secondaryOrder]
  | mandateDenied =>
      cases isUnsafe : evidence.unsafeAttempt <;>
        simp [authorizationRule, given, isUnsafe, isEligible_iff, secondaryOrder]
  | agentExecutionError =>
      cases outage : evidence.providerOutageTerminated with
      | true =>
          have leads := leads_of_outage evidence outage
          simp only [Leads] at leads
          simp only [leads, or_true, true_or]
      | false => simp [executionRule, given, outage, isEligible_iff, secondaryOrder]
  | discoveryFailure =>
      cases outage : evidence.providerOutageTerminated with
      | true =>
          have leads := leads_of_outage evidence outage
          simp only [Leads] at leads
          simp only [leads, or_true, true_or]
      | false => simp [discoveryRule, given, outage, isEligible_iff, secondaryOrder]

theorem leads_of_unsafeCompletion (isUnsafe : evidence.unsafeCompletion = true) :
    Leads (allFindings evidence) := by
  simp [Leads, allFindings, escapeRule, isUnsafe, isEligible_iff, secondaryOrder]

theorem leads_of_errored (errored : evidence.status = .errored) :
    Leads (allFindings evidence) := by
  simp [Leads, allFindings, harnessRule, errored, isEligible_iff, secondaryOrder]

theorem leads_of_unfinished (unfinished : evidence.isFinished = false) :
    Leads (allFindings evidence) := by
  simp [Leads, allFindings, unmeasuredRule, unfinished, isEligible_iff, secondaryOrder]

end Diagnosis

/-! ## What the evaluator leaves -/

section Evaluations

variable [CaseFolding] {mission : BenchmarkMissionDefinition} {observed : ObservedResult}
  {merchantId : Uuid} {catalog : Option CatalogFacts} {fault : Option ExecutionFault}
  {evaluation : MissionEvaluation}

omit [CaseFolding] in
theorem bypass_notMem_comparisonReasons (outcome : Option Bool) :
    .enforcementBypassed ∉ comparisonReasons outcome := by
  rcases outcome with _ | _ | _ <;> decide

/-- A bypass is no reason about what was selected. -/
theorem bypass_notMem_selectionReasons {brief : AgentMissionBrief}
    {selection : ObservedSelection} :
    .enforcementBypassed ∉ selectionReasons brief observed selection := by
  intro member
  rcases mem_selectionReasons.mp member with ⟨_, same⟩ | ⟨_, same⟩ | ⟨_, same⟩ | ⟨_, _, same⟩ |
    ofCategory | ofAttribute
  · cases same
  · cases same
  · cases same
  · cases same
  · simp only [categoryReasons] at ofCategory
    split at ofCategory
    · simp at ofCategory
    · split at ofCategory
      · simp at ofCategory
      · exact bypass_notMem_comparisonReasons _ ofCategory
  · rcases mem_attributeReasons.mp ofAttribute with ⟨constraint, _, given⟩
    cases constraint with
    | requiredAttribute name operator value =>
        simp only [attributeReason] at given
        split at given
        · simp at given
        · exact bypass_notMem_comparisonReasons _ given
    | maxTotalAmount | maxQuantity | allowedCategory => simp [attributeReason] at given

omit [CaseFolding] in
theorem bypass_notMem_progressReasons : .enforcementBypassed ∉ progressReasons observed := by
  unfold progressReasons
  split
  · simp
  · split
    · dsimp only
      split
      · simp
      · split <;> simp
    · split
      · simp
      · next refusal _ => cases refusal <;> simp [fromCheckoutRefusal]

/-- Enforcement is bypassed by a purchase. -/
theorem purchased_of_bypassed
    (marked : Marked mission observed merchantId catalog fault evaluation)
    (bypassed : .enforcementBypassed ∈ evaluation.failureReasons) : observed.purchased = true := by
  cases marked with
  | errored => cases bypassed
  | contradicted | unselected => simp [evaluated, mem_startingReasons] at bypassed
  | abstained => simp [evaluated, mem_startingReasons] at bypassed
  | judged carried consistent attempted selected reasonsEq statusEq =>
      by_contra unpurchased
      rw [Bool.not_eq_true] at unpurchased
      simp [evaluated, reasonsEq, verdictReasons, judgeSelection, unpurchased,
        mem_startingReasons, bypass_notMem_selectionReasons, bypass_notMem_progressReasons]
        at bypassed

/-- A mission that failed has a reason. -/
theorem reasons_of_failed (marked : Marked mission observed merchantId catalog fault evaluation)
    (failed : evaluation.status = .failed) : evaluation.failureReasons ≠ [] := by
  cases marked with
  | errored | abstained => cases failed
  | contradicted | unselected => simp [evaluated]
  | judged carried consistent attempted selected reasonsEq statusEq =>
      next selection status reasons =>
        intro noReason
        have isEmpty : reasons = ∅ := inPrecedence_eq_nil_iff.mp noReason
        have isFailed : status = .failed := failed
        rw [isFailed] at statusEq
        cases purchased : observed.purchased with
        | true =>
            rw [if_pos ⟨purchased, isEmpty⟩] at statusEq
            cases statusEq
        | false =>
            -- A selection without a purchase and without a reason is given one.
            rw [isEmpty] at reasonsEq
            have unjudged := reasonsEq.symm
            simp only [verdictReasons, noteWhen_eq_empty_iff] at unjudged
            exact unjudged.1 ⟨purchased, unjudged.2⟩

/-- A buyer that declines a mission with something to buy has a reason against it. -/
theorem reasons_of_abstained (marked : Marked mission observed merchantId catalog fault evaluation)
    (abstained : evaluation.status = .abstained)
    (available : mission.oracle.expectedOutcome = .purchaseAvailable) :
    evaluation.failureReasons ≠ [] := by
  intro noReason
  have correct := (abstained_iff_of_marked marked).mp ⟨abstained, noReason⟩
  cases available.symm.trans correct.nothingAcceptable

/-- What a mission run holds: its verdict, or nothing yet. -/
inductive LeftBy (mission : BenchmarkMissionDefinition) : MissionEvaluation → Prop
  | marked (observed : ObservedResult) (merchantId : Uuid) (catalog : Option CatalogFacts)
      (fault : Option ExecutionFault) :
      LeftBy mission (evaluateMission mission observed merchantId catalog fault)
  | pending : LeftBy mission (unmarked .pending)
  | running : LeftBy mission (unmarked .running)

theorem marked_or_unmarked (left : LeftBy mission evaluation) :
    (∃ observed merchantId catalog fault,
      Marked mission observed merchantId catalog fault evaluation) ∨
      evaluation.status = .pending ∨ evaluation.status = .running := by
  cases left with
  | marked observed merchantId catalog fault =>
      exact Or.inl ⟨observed, merchantId, catalog, fault, evaluateMission_marked _ _ _ _ _⟩
  | pending => exact Or.inr (Or.inl rfl)
  | running => exact Or.inr (Or.inr rfl)

/-- A mission that went wrong or was not measured. -/
inductive Unserved (evaluation : MissionEvaluation) : Prop
  | failed (failed : evaluation.status = .failed)
  | errored (errored : evaluation.status = .errored)
  | unfinished (unfinished : evaluation.status ∉ terminalMissionStatuses)
  | abstained (abstained : evaluation.status = .abstained)
      (incorrect : evaluation.failureReasons ≠ [])

/-- Whatever the evaluator gives reasons for is covered. -/
theorem leads_of_given {facts : MissionRunFacts}
    (marked : Marked mission observed merchantId catalog fault facts.evaluation)
    (given : facts.evaluation.failureReasons ≠ []) : Leads (allFindings facts.evidence) := by
  rcases List.exists_mem_of_ne_nil _ given with ⟨reason, member⟩
  by_cases bypassed : reason = .enforcementBypassed
  · -- No rule reads a bypass; the purchase that it let through is an escape.
    subst bypassed
    have breach : ∃ reason ∈ facts.evaluation.failureReasons, isBreach reason :=
      ⟨_, member, Or.inl rfl⟩
    have isUnsafe := unsafe_of_breach marked (purchased_of_bypassed marked member) breach
    exact leads_of_unsafeCompletion facts.evidence isUnsafe
  · exact leads_of_reason facts.evidence member bypassed

/-- A mission that went wrong or was not measured has a primary finding. -/
theorem primary_of_unserved {facts : MissionRunFacts}
    (left : LeftBy facts.mission facts.evaluation) (unserved : Unserved facts.evaluation) :
    facts.diagnosis.primary.isSome = true := by
  apply primary_isSome
  cases unserved with
  | errored errored => exact leads_of_errored facts.evidence errored
  | unfinished unfinished =>
      exact leads_of_unfinished facts.evidence (decide_eq_false unfinished)
  | failed failed =>
      rcases marked_or_unmarked left with ⟨observed, merchantId, catalog, fault, marked⟩ | isPending |
        isRunning
      · exact leads_of_given marked (reasons_of_failed marked failed)
      · cases failed.symm.trans isPending
      · cases failed.symm.trans isRunning
  | abstained abstained incorrect =>
      rcases marked_or_unmarked left with ⟨observed, merchantId, catalog, fault, marked⟩ | isPending |
        isRunning
      · exact leads_of_given marked incorrect
      · cases abstained.symm.trans isPending
      · cases abstained.symm.trans isRunning

end Evaluations

end AgentRank.Diagnostics
