import AgentRank.Benchmark.ReportBounds

/-!
# What an executor writes decides nothing

A report carries two texts, the detail of an abstention and the detail of an error, and neither
is classified from.  Two accounts of a mission that differ in their wording are marked the same,
and no account is marked as a failure of the harness where the harness did not fail.
-/

namespace AgentRank.Benchmark

open Store Text

/-- Two observations with the same facts, both of an abstention or neither.  What the executor
wrote of an abstention or of an error is left free. -/
structure ObservedResult.AgreeButText (first second : ObservedResult) : Prop where
  merchantId : first.merchantId = second.merchantId
  selection : first.selection = second.selection
  checkout : first.checkout = second.checkout
  authorization : first.authorization = second.authorization
  payment : first.payment = second.payment
  abstention : first.abstention.isSome = second.abstention.isSome

/-- Two reports that name the same rows and decide the same. -/
structure ExecutorReport.AgreeButText (first second : ExecutorReport) : Prop where
  merchantId : first.merchantId = second.merchantId
  selection : first.selection = second.selection
  checkout : first.checkout = second.checkout
  payment : first.payment = second.payment
  abstention : first.abstention.isSome = second.abstention.isSome

section Marking

variable {first second : ObservedResult}

theorem purchased_eq (agree : first.AgreeButText second) : first.purchased = second.purchased := by
  rw [ObservedResult.purchased, ObservedResult.purchased, agree.payment]

theorem contradictsItself_eq (agree : first.AgreeButText second) :
    contradictsItself first = contradictsItself second := by
  unfold contradictsItself
  rw [agree.abstention, agree.selection, agree.checkout, agree.authorization, agree.payment]

theorem evaluated_eq (agree : first.AgreeButText second) (status : MissionRunStatus)
    (reasons : Finset FailureReason) (confirmed : Option Bool) (certifiable : Bool) :
    evaluated status reasons first confirmed certifiable =
      evaluated status reasons second confirmed certifiable := by
  unfold evaluated
  rw [agree.checkout, agree.payment, purchased_eq agree]

variable [CaseFolding]

theorem judgeSelection_eq (agree : first.AgreeButText second)
    (mission : BenchmarkMissionDefinition) (selection : ObservedSelection)
    (catalog : Option CatalogFacts) (reasons : Finset FailureReason) :
    judgeSelection mission first selection catalog reasons =
      judgeSelection mission second selection catalog reasons := by
  have quoted : quotedCurrency first = quotedCurrency second := by
    rw [quotedCurrency, quotedCurrency, agree.checkout]
  have charged : chargedAmount first selection = chargedAmount second selection := by
    rw [chargedAmount, chargedAmount, agree.checkout]
  have selected : selectionReasons mission.brief first selection =
      selectionReasons mission.brief second selection := by
    unfold selectionReasons
    rw [quoted, charged]
  have progressed : progressReasons first = progressReasons second := by
    unfold progressReasons
    rw [agree.checkout, agree.authorization, agree.payment]
  unfold judgeSelection
  rw [selected, progressed, purchased_eq agree, agree.authorization]

/-- Observations that differ in their wording are marked the same. -/
theorem evaluateMission_eq (agree : first.AgreeButText second)
    (mission : BenchmarkMissionDefinition) (merchantId : Uuid) (catalog : Option CatalogFacts)
    (fault : Option ExecutionFault) :
    evaluateMission mission first merchantId catalog fault =
      evaluateMission mission second merchantId catalog fault := by
  have failed : harnessFailed first fault = harnessFailed second fault := by
    rw [harnessFailed, harnessFailed, purchased_eq agree]
  unfold evaluateMission
  simp only [failed, contradictsItself_eq agree, agree.merchantId, agree.abstention,
    agree.selection, evaluated_eq agree, judgeSelection_eq agree, purchased_eq agree]

/-- Nothing but a fault of the harness leaves a mission unmeasured. -/
theorem status_ne_errored {observed : ObservedResult} {fault : Option ExecutionFault}
    (carried : ∀ seen, fault = some seen → seen.origin ≠ .harness)
    (mission : BenchmarkMissionDefinition) (merchantId : Uuid) (catalog : Option CatalogFacts) :
    (evaluateMission mission observed merchantId catalog fault).status ≠ .errored := by
  intro errored
  have marked := evaluateMission_marked mission observed merchantId catalog fault
  obtain ⟨⟨seen, isSeen, isHarness⟩, _⟩ := (errored_iff_of_marked marked).mp errored
  exact carried seen isSeen isHarness

end Marking

/-! ## From the report to the verdict -/

section Reports

variable {first second : ExecutorReport}

/-- What trusted state says of a mission does not depend on the wording of its report. -/
theorem observe_agree (agree : first.AgreeButText second) (rows : CommerceRows)
    (merchantId : Uuid) (brief : AgentMissionBrief) (catalog : List CatalogEntry)
    (evidence : CommerceEvidence) (since : Option Instant) :
    (observe rows first merchantId brief catalog evidence since).AgreeButText
      (observe rows second merchantId brief catalog evidence since) := by
  have payment : paymentOf rows merchantId first since = paymentOf rows merchantId second since := by
    unfold paymentOf candidates
    rw [agree.payment]
  have checkout : ∀ payment : Option PaymentAttempt,
      checkoutOf rows first payment evidence merchantId =
        checkoutOf rows second payment evidence merchantId := by
    intro payment
    unfold checkoutOf
    rw [agree.checkout]
  have selection : ∀ lines : List ReadLine,
      selectionOf first lines catalog brief = selectionOf second lines catalog brief := by
    intro lines
    unfold selectionOf chosenLine
    rw [agree.selection]
  have quote : ∀ quote : Option StoredQuote,
      quoteOf first quote evidence = quoteOf second quote evidence := by
    intro quote
    unfold quoteOf
    rw [agree.checkout]
  constructor
  · exact agree.merchantId
  · simp only [observe, payment, checkout, selection]
  · simp only [observe, payment, checkout, quote]
  · simp only [observe, payment, checkout]
  · simp only [observe, payment]
  · exact agree.abstention

end Reports

/-- Two accounts of a mission that differ in their wording are marked the same, as observations
and as reports, and no report is marked as a failure of the harness where the harness did not
fail. -/
theorem marking_ignores_wording [CaseFolding] :
    (∀ (mission : BenchmarkMissionDefinition) (first second : ObservedResult),
        first.AgreeButText second → ∀ merchantId catalog fault,
          evaluateMission mission first merchantId catalog fault =
            evaluateMission mission second merchantId catalog fault) ∧
      (∀ (rows : CommerceRows) (mission : BenchmarkMissionDefinition)
        (first second : ExecutorReport), first.AgreeButText second →
          ∀ merchantId catalog evidence since fault,
            evaluateReport rows mission first merchantId catalog evidence since fault =
              evaluateReport rows mission second merchantId catalog evidence since fault) ∧
      ∀ fault : Option ExecutionFault, (∀ seen, fault = some seen → seen.origin ≠ .harness) →
        (∀ mission observed merchantId catalog,
            (evaluateMission mission observed merchantId catalog fault).status ≠ .errored) ∧
          ∀ rows mission report merchantId catalog evidence since,
            (evaluateReport rows mission report merchantId catalog evidence since fault).status ≠
              .errored := by
  refine ⟨?_, ?_, ?_⟩
  · intro mission first second agree merchantId catalog fault
    exact evaluateMission_eq agree mission merchantId catalog fault
  · intro rows mission first second agree merchantId catalog evidence since fault
    have observed := observe_agree agree rows merchantId mission.brief catalog evidence since
    unfold evaluateReport
    dsimp only
    rw [evaluateMission_eq observed, observed.selection]
  · intro fault carried
    exact ⟨fun mission _ merchantId catalog => status_ne_errored carried mission merchantId catalog,
      fun _ mission _ merchantId catalog _ _ => status_ne_errored carried mission merchantId _⟩

section Sample

local instance wordingFolding : CaseFolding := asciiFolding

/-- A report that the buyer declined, in some words. -/
def declined (detail : String) : ExecutorReport where
  merchantId := 0
  abstention := some ⟨.noCompliantCandidate, some detail⟩

/-- Two ways to decline the charger. -/
theorem marking_ignores_wording_sample :
    (let evaluation := fun report : ExecutorReport =>
      evaluateReport pairRows chargerMission report 0 pairCatalog {} (some 0) none
    evaluation (declined "too expensive") = evaluation (declined "HARNESS FAILURE") ∧
      (evaluation (declined "HARNESS FAILURE")).status ≠ .errored) ∧
    evaluateMission chargerMission { merchantId := 0, abstention := some ⟨.budgetInsufficient, none⟩ }
        0 none none =
      evaluateMission chargerMission { merchantId := 0, abstention := some ⟨.noCandidateFound, none⟩ }
        0 none none := by
  obtain ⟨observations, reports, measured⟩ := marking_ignores_wording
  refine ⟨⟨reports _ _ _ _ ⟨rfl, rfl, rfl, rfl, rfl⟩ _ _ _ _ _, ?_⟩,
    observations _ _ _ ⟨rfl, rfl, rfl, rfl, rfl, rfl⟩ _ _ _⟩
  exact (measured none fun _ isSome => nomatch isSome).2 _ _ _ _ _ _ _

end Sample

end AgentRank.Benchmark
