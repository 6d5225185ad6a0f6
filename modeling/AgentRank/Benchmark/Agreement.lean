import AgentRank.Benchmark.Authorization
import AgentRank.Benchmark.Catalog
import AgentRank.Benchmark.Verdicts
import AgentRank.Checkout.IntentCompleteness

/-!
# The catalog, the evaluator and the gates agree

What the buyer asked for is compared three times: with a catalog entry, with an observed
selection, and with the lines of a quote.  `Qualifies` is what the three share.  An entry
that qualifies is one whose purchase succeeds, and one that the gates authorize under what
was provisioned.
-/

namespace AgentRank.Benchmark

open Checkout Constraints Store Text

/-- An allowed purchase of as many units of an entry as the brief wants. -/
structure Buys (brief : AgentMissionBrief) (merchantId : Uuid) (entry : CatalogEntry)
    (observed : ObservedResult) : Prop where
  merchant : observed.merchantId = merchantId
  attempted : observed.abstention = none
  selected : ∃ selection, observed.selection = some selection ∧
    selection.variantId = entry.variantId ∧ selection.quantity = brief.quantity ∧
    selection.unitPriceAmountMinor = entry.priceAmountMinor ∧
    selection.currency = entry.currency ∧
    selection.productCategory = entry.productCategory ∧
    selection.variantAttributes = entry.attributes
  quoted : ∃ checkout, observed.checkout = some checkout ∧ checkout.created = true ∧
    checkout.totalAmountMinor = some (entry.priceOf brief.quantity) ∧
    checkout.currency = some entry.currency
  allowed : ∃ answer, observed.authorization = some answer ∧ answer.allowed = true
  paid : observed.purchased = true

/-- What the catalog is asked about a purchase of an entry: nothing, or what a catalog that
lists the entry says. -/
inductive Consults [CaseFolding] (brief : AgentMissionBrief) (entry : CatalogEntry)
    (observed : ObservedResult) : Option CatalogFacts → Prop
  | nothing : Consults brief entry observed none
  | facts (entries : List CatalogEntry)
      (unique : (entries.map CatalogEntry.variantId).Nodup) (listed : entry ∈ entries) :
      Consults brief entry observed (some (factsFor brief entries observed.selection))

/-- An open quote of as many units of an entry as the brief wants, at one instant. -/
structure QuotesEntry (brief : AgentMissionBrief) (entry : CatalogEntry)
    (merchantId mandateId : Uuid) (instant : Instant) (checkout : CheckoutSession) : Prop where
  merchant : checkout.merchantId = merchantId
  mandate : checkout.mandateId = mandateId
  quoted : ∃ line, checkout.lines = [line] ∧ line.variantId = entry.variantId ∧
    line.quantity = brief.quantity ∧ line.unitPriceAmountMinor = entry.priceAmountMinor ∧
    line.productCategory = entry.productCategory ∧ line.variantAttributes = entry.attributes
  total : checkout.totalAmountMinor = entry.priceOf brief.quantity
  currency : checkout.currency = entry.currency
  isOpen : checkout.status = .isOpen
  unexpired : instant < checkout.expiresAt

variable {brief : AgentMissionBrief}

section Agreement

variable [CaseFolding]

/-! ## The catalog and the evaluator -/

variable {mission : BenchmarkMissionDefinition} {merchantId : Uuid} {entry : CatalogEntry}
  {observed : ObservedResult} {catalog : Option CatalogFacts}

/-- A selection of an entry keeps what was stated exactly when the entry qualifies. -/
theorem selectionReasons_eq_empty_iff_qualifies {selection : ObservedSelection}
    (buys : Buys brief merchantId entry observed) (selected : observed.selection = some selection) :
    selectionReasons brief observed selection = ∅ ↔ Qualifies brief entry := by
  rcases buys.selected with
    ⟨other, otherEq, _, quantity, _, currency, category, attributes⟩
  rw [selected] at otherEq
  cases otherEq
  rcases buys.quoted with ⟨checkout, checkoutEq, created, total, quotedIn⟩
  have quotedEq : quotedCurrency observed = some entry.currency := by
    simp [quotedCurrency, checkoutEq, created, quotedIn]
  have chargedEq : chargedAmount observed selection = entry.priceOf brief.quantity := by
    simp [chargedAmount, checkoutEq, created, total]
  rw [selectionReasons_eq_empty_iff]
  constructor
  · rintro ⟨keeps, _⟩
    constructor
    · exact currency.symm.trans keeps.currency
    · rw [← chargedEq]
      exact keeps.withinBudget
    · intro required
      rw [← category]
      exact categoryReasons_eq_empty_iff.mp keeps.category required
    · rw [← attributes]
      exact attributeReasons_eq_empty_iff.mp keeps.attributes
  · intro qualifies
    refine ⟨?_, quantity⟩
    constructor
    · exact currency.trans qualifies.currency
    · intro code codeEq
      rw [quotedEq] at codeEq
      cases codeEq
      exact qualifies.currency
    · rw [chargedEq]
      exact qualifies.withinBudget
    · apply categoryReasons_eq_empty_iff.mpr
      rw [category]
      exact qualifies.category
    · apply attributeReasons_eq_empty_iff.mpr
      rw [attributes]
      exact qualifies.attributes
    · intro ceiling stated
      rw [quantity]
      exact brief.quantityAuthorized ceiling stated

omit [CaseFolding] in
/-- A purchase contradicts nothing. -/
theorem Buys.consistent (buys : Buys brief merchantId entry observed) :
    contradictsItself observed = false := by
  rcases buys.selected with ⟨selection, selected, _⟩
  rcases buys.quoted with ⟨checkout, quoted, created, _⟩
  simp [contradictsItself, buys.attempted, selected, quoted, created]

/-- A catalog that lists an active entry does not call it unavailable. -/
theorem Consults.sellable (active : entry.isActive = true)
    (buys : Buys brief merchantId entry observed)
    (consults : Consults brief entry observed catalog) :
    ∀ facts, catalog = some facts → facts.selectionIsSellable ≠ some false := by
  intro facts known
  cases consults with
  | nothing => cases known
  | facts entries unique listed =>
      cases known
      rcases buys.selected with ⟨selection, selected, variant, _⟩
      simp [factsFor, selected, sellable_of_mem unique listed variant, active]

/-- A purchase that is not of an unavailable entry gives no reasons but those of what was
stated. -/
theorem verdictReasons_eq_selectionReasons {selection : ObservedSelection}
    (available : mission.oracle.expectedOutcome = .purchaseAvailable)
    (buys : Buys mission.brief merchantId entry observed)
    (sellable : ∀ facts, catalog = some facts → facts.selectionIsSellable ≠ some false) :
    verdictReasons mission observed merchantId selection catalog none =
      selectionReasons mission.brief observed selection := by
  have progressed : progressReasons observed = ∅ := by
    rcases buys.quoted with ⟨checkout, quoted, created, _⟩
    rcases buys.allowed with ⟨answer, answered, allowed⟩
    have paid := buys.paid
    cases payment : observed.payment with
    | none => simp [ObservedResult.purchased, payment] at paid
    | some moved =>
        simp only [ObservedResult.purchased, payment, Option.any_some, decide_eq_true_eq] at paid
        simp [progressReasons, quoted, created, answered, allowed, payment, paid]
  have started : startingReasons observed merchantId none = ∅ :=
    startingReasons_eq_empty_iff.mpr ⟨buys.merchant, by rintro _ ⟨⟩⟩
  ext reason
  rw [mem_verdictReasons buys.paid, started, progressed]
  constructor
  · rintro (⟨unavailable, _⟩ | ⟨⟨answer, answered, denied⟩, _⟩ | ⟨⟨facts, known, gone⟩, _⟩ |
      absent | member | absent)
    · rw [available] at unavailable
      cases unavailable
    · rcases buys.allowed with ⟨other, otherEq, allowed⟩
      rw [answered] at otherEq
      cases otherEq
      rw [denied] at allowed
      cases allowed
    · exact (sellable facts known gone).elim
    · exact (Finset.notMem_empty _ absent).elim
    · exact member
    · exact (Finset.notMem_empty _ absent).elim
  · intro member
    exact Or.inr (Or.inr (Or.inr (Or.inr (Or.inl member))))

/-- A purchase of an active entry succeeds exactly when the entry qualifies. -/
theorem succeeded_iff_qualifies {evaluation : MissionEvaluation}
    (marked : Marked mission observed merchantId catalog none evaluation)
    (active : entry.isActive = true)
    (available : mission.oracle.expectedOutcome = .purchaseAvailable)
    (buys : Buys mission.brief merchantId entry observed)
    (consults : Consults mission.brief entry observed catalog) :
    evaluation.status = .succeeded ↔ Qualifies mission.brief entry := by
  cases marked with
  | errored failed => simp [harnessFailed] at failed
  | contradicted _ contradicted =>
      rw [buys.consistent] at contradicted
      cases contradicted
  | abstained _ _ abstained =>
      rw [buys.attempted] at abstained
      cases abstained
  | unselected _ _ _ unselected =>
      rcases buys.selected with ⟨selection, selected, _⟩
      rw [selected] at unselected
      cases unselected
  | judged carried consistent attempted selected reasonsEq statusEq =>
      next selection status reasons =>
        rw [verdictReasons_eq_selectionReasons available buys (consults.sellable active buys)]
          at reasonsEq
        rw [← selectionReasons_eq_empty_iff_qualifies buys selected, ← reasonsEq]
        simp only [evaluated, statusEq, buys.paid, true_and]
        by_cases clear : reasons = ∅ <;> simp [clear]

variable {provisioned : Provisioned} {checkout : CheckoutSession} {mandateId : Uuid}
  {now instant : Instant}

omit [CaseFolding] in
/-- The mandate of a brief pays for a qualifying entry while it is valid. -/
theorem financiallyAuthorized_of_qualifies (currency : entry.currency = brief.currency)
    (withinBudget : entry.priceOf brief.quantity ≤ brief.budget.amountMinor)
    (quotes : QuotesEntry brief entry merchantId mandateId instant checkout)
    (started : now ≤ instant) (unfinished : instant < now + mandateWindow) :
    FinanciallyAuthorized checkout (mandateFor brief merchantId mandateId now) instant where
  mandateActive := rfl
  validFrom := started
  validUntil := unfinished
  sameMerchant := quotes.merchant
  sameMandate := quotes.mandate
  checkoutOpen := quotes.isOpen
  unexpired := quotes.unexpired
  sameCurrency := quotes.currency.trans currency
  totalWithin := quotes.total ▸ withinBudget
  quantityWithin := by
    intro ceiling ceilingEq
    rcases quotes.quoted with ⟨line, lines, _, quantity, _⟩
    simp only [mandateFor, Option.map_eq_some_iff] at ceilingEq
    rcases ceilingEq with ⟨stated, statedEq, rfl⟩
    have authorized := brief.quantityAuthorized stated statedEq
    simp only [checkoutQuantity, lines, List.map_cons, List.map_nil, List.sum_cons,
      List.sum_nil, add_zero, quantity]
    omega

/-- The line of a qualifying entry keeps what the brief states. -/
theorem lineKeeps_of_qualifies {line : CheckoutLine} (qualifies : Qualifies brief entry)
    (category : line.productCategory = entry.productCategory)
    (attributes : line.variantAttributes = entry.attributes) :
    LineKeeps brief.semanticConstraints line := by
  constructor
  · rintro ⟨stated, statedMem⟩
    have present : brief.allowedCategories ≠ [] := by
      apply List.ne_nil_of_mem
      exact AgentMissionBrief.mem_allowedCategories.mpr (mem_semanticConstraints.mp statedMem).1
    rcases qualifies.category present with ⟨found, published, accepted⟩
    rcases compare_texts_iff.mp accepted with ⟨allowed, allowedMem, sameText⟩
    refine ⟨found, category.trans published, allowed, ?_, sameText⟩
    exact mem_semanticConstraints.mpr
      ⟨AgentMissionBrief.mem_allowedCategories.mp allowedMem, rfl⟩
  · intro name operator value stated
    rw [attributes]
    exact qualifies.attributes name operator value (mem_semanticConstraints.mp stated).1

/-- What was provisioned for a brief that states a category or an attribute is satisfied by
the quote of a qualifying entry. -/
theorem intentSatisfied_of_qualifies {request : NewIntentConstraints} {setId : Uuid}
    {constraintId : Nat → Uuid} (qualifies : Qualifies mission.brief entry)
    (quotes : QuotesEntry mission.brief entry merchantId mandateId instant checkout)
    (merchant : request.merchantId = merchantId) (mandate : request.mandateId = mandateId)
    (stated : request.hardConstraints = mission.brief.semanticConstraints) :
    IntentSatisfied checkout (constraintSetRow request setId constraintId) := by
  rcases quotes.quoted with ⟨line, lines, _, _, _, category, attributes⟩
  apply intentSatisfied_of_keeps
  · exact quotes.merchant.trans merchant.symm
  · exact quotes.mandate.trans mandate.symm
  · simp [lines]
  · intro other otherMem
    rw [lines, List.mem_singleton] at otherMem
    rw [otherMem, stated]
    exact lineKeeps_of_qualifies qualifies category attributes

/-- The catalog, the evaluator and the gates agree about an entry that is sold.  It
satisfies a brief exactly when an allowed purchase of it succeeds and there is enough of
it.  The mandate provisioned for the brief then pays for it, and so does the intent gate
where the brief states a category or an attribute.  A brief that states neither is denied
for the constraint set that it lacks. -/
theorem oracle_agrees (mission : BenchmarkMissionDefinition) (merchantId : Uuid)
    (entry : CatalogEntry) (active : entry.isActive = true)
    (available : mission.oracle.expectedOutcome = .purchaseAvailable) :
    (∀ observed catalog, Buys mission.brief merchantId entry observed →
      Consults mission.brief entry observed catalog →
      (satisfies mission.brief entry = true ↔
        (evaluateMission mission observed merchantId catalog none).status = .succeeded ∧
          mission.brief.quantity ≤ entry.inventoryQuantity)) ∧
    (satisfies mission.brief entry = true →
      ∀ mandateId now provisioned,
        provision mission.brief merchantId mandateId now = .ok provisioned →
        ∀ checkout instant,
          QuotesEntry mission.brief entry merchantId mandateId instant checkout →
          now ≤ instant → instant < now + mandateWindow →
          ∀ setId constraintId,
            (authorizeCheckout checkout provisioned.mandate instant).allowed = true ∧
            (mission.brief.semanticConstraints ≠ [] →
              ∃ constraintSet decision,
                provisioned.constraintSet setId constraintId = some constraintSet ∧
                evaluateIntentConstraints checkout constraintSet = .ok decision ∧
                decision.satisfied = true ∧
                Authorizes checkout provisioned.mandate (some constraintSet) instant) ∧
            (mission.brief.semanticConstraints = [] →
              provisioned.constraintSet setId constraintId = none ∧
                authorizeCheckoutExecution checkout provisioned.mandate none instant =
                  .ok
                    { financial := authorizeCheckout checkout provisioned.mandate instant
                      intent := none
                      violations := [.intentConstraintsMissing] })) := by
  constructor
  · intro observed catalog buys consults
    have marked := evaluateMission_marked mission observed merchantId catalog none
    rw [satisfies_iff, succeeded_iff_qualifies marked active available buys consults, and_comm]
    simp [CatalogEntry.canSupply, active]
  · intro satisfied mandateId now provisioned done checkout instant quotes started unfinished
      setId constraintId
    have qualifies := (satisfies_iff.mp satisfied).2
    rcases provision_eq_ok done with ⟨mandateEq, requirements⟩
    have financial : FinanciallyAuthorized checkout provisioned.mandate instant := by
      rw [mandateEq]
      exact financiallyAuthorized_of_qualifies qualifies.currency qualifies.withinBudget quotes
        started unfinished
    refine ⟨(authorizeCheckout_allowed_iff _ _ _).mpr financial, ?_, ?_⟩
    · intro present
      rcases requirements with ⟨absent, _⟩ | ⟨request, _, requestEq, merchant, mandate, stated⟩
      · exact (present absent).elim
      · have satisfiedIntent :
            IntentSatisfied checkout (constraintSetRow request setId constraintId) :=
          intentSatisfied_of_qualifies qualifies quotes merchant mandate stated
        rcases (evaluateIntentConstraints_satisfied_iff _ _).mpr satisfiedIntent with
          ⟨decision, decisionEq, decided⟩
        refine ⟨_, decision, by rw [Provisioned.constraintSet, requestEq]; rfl, decisionEq,
          decided, ?_⟩
        exact (authorizeCheckoutExecution_authorized_iff _ _ _ _).mpr
          ⟨financial, _, rfl, satisfiedIntent⟩
    · intro absent
      rcases requirements with ⟨_, none_requested⟩ | ⟨_, present, _⟩
      · exact ⟨by rw [Provisioned.constraintSet, none_requested]; rfl, rfl⟩
      · exact (present absent).elim

end Agreement

/-! ## A purchase of one charger -/

section Sample

local instance : CaseFolding := asciiFolding

/-- A mission with a budget and no other requirement. -/
def budgetMission : BenchmarkMissionDefinition where
  brief :=
    { key := "charger"
      objective := "A charger for a laptop"
      budget := ⟨5000, "INR", isCurrencyCode_inr⟩
      quantity := 1
      hardConstraints := []
      preferences := []
      isKey := by decide +kernel
      objectiveStated := by decide +kernel
      objectiveBounded := by decide +kernel
      quantityPositive := Nat.one_pos
      budgetPositive := by decide
      constraintsBounded := by decide
      preferencesBounded := by decide
      preferencesStated := by simp
      noAmountConstraint := by simp
      oneCeiling := by decide
      quantityAuthorized := by rintro _ ⟨⟩
      constraintsValid := by simp
      exactValues := by simp }
  oracle := ⟨.purchaseAvailable, 4500, by decide⟩
  worthBounded := by decide

/-- The same mission, for the chargers only. -/
def chargerMission : BenchmarkMissionDefinition :=
  { budgetMission with
    brief :=
      { budgetMission.brief with
        hardConstraints := [.allowedCategory "Chargers"]
        constraintsBounded := by decide
        noAmountConstraint := by simp
        oneCeiling := by decide
        quantityAuthorized := by rintro _ ⟨⟩
        constraintsValid := by
          intro constraint member
          rw [List.mem_singleton.mp member]
          rfl
        exactValues := by simp } }

/-- Variant 3, a charger at 4500 with two in stock. -/
def chargerEntry : CatalogEntry where
  variantId := 3
  sku := "CHG-65"
  productCategory := some "chargers"
  attributes := ⟨[], List.nodup_nil⟩
  priceAmountMinor := 4500
  currency := "INR"
  inventoryQuantity := 2
  isActive := true
  isCurrency := isCurrencyCode_inr

/-- An open quote of one charger by merchant 0 under mandate 1. -/
def chargerQuote : CheckoutSession where
  id := 2
  merchantId := 0
  mandateId := 1
  currency := "INR"
  subtotalAmountMinor := 4500
  shippingAmountMinor := 0
  discountAmountMinor := 0
  totalAmountMinor := 4500
  status := .isOpen
  expiresAt := 900
  cancelledAt := none
  paidAt := none
  lines :=
    [{ id := 0
       variantId := 3
       quantity := 1
       unitPriceAmountMinor := 4500
       productCategory := some "chargers"
       variantAttributes := ⟨[], List.nodup_nil⟩ }]
  variantsNodup := by decide

/-- The purchase of that quote, as the trusted side observed it. -/
def chargerPurchase : ObservedResult where
  merchantId := 0
  selection :=
    some
      { variantId := 3
        quantity := 1
        unitPriceAmountMinor := 4500
        currency := "INR"
        productCategory := some "chargers"
        quantityPositive := Nat.one_pos
        isCurrency := isCurrencyCode_inr }
  checkout :=
    some
      { created := true
        checkoutId := some 2
        totalAmountMinor := some 4500
        currency := some "INR"
        isCurrency := by
          rintro _ ⟨⟩
          decide
        createdShape := by
          intro _
          exact ⟨rfl, rfl, rfl⟩
        refusedShape := by rintro ⟨⟩ }
  authorization := some { allowed := true }
  payment := some ⟨.succeeded, some 7, by simp⟩

theorem chargerQuote_quotes (one : brief.quantity = 1) :
    QuotesEntry brief chargerEntry 0 1 10 chargerQuote where
  merchant := rfl
  mandate := rfl
  quoted := ⟨_, rfl, rfl, one.symm, rfl, rfl, rfl⟩
  total := by
    rw [CatalogEntry.priceOf, one]
    rfl
  currency := rfl
  isOpen := rfl
  unexpired := by decide

theorem chargerPurchase_buys (one : brief.quantity = 1) :
    Buys brief 0 chargerEntry chargerPurchase where
  merchant := rfl
  attempted := rfl
  selected := ⟨_, rfl, rfl, one.symm, rfl, rfl, rfl, rfl⟩
  quoted := by
    refine ⟨_, rfl, rfl, ?_, rfl⟩
    rw [CatalogEntry.priceOf, one]
    rfl
  allowed := ⟨_, rfl, rfl⟩
  paid := by decide

theorem chargerEntry_satisfies :
    satisfies budgetMission.brief chargerEntry = true ∧
      satisfies chargerMission.brief chargerEntry = true := by
  constructor <;> decide +kernel

/-- A charger satisfies a brief with a budget and no other requirement.  The mandate
provisioned for that brief pays for it, no constraint set is provisioned, and the purchase
is denied. -/
theorem budget_only_denied :
    satisfies budgetMission.brief chargerEntry = true ∧
      QuotesEntry budgetMission.brief chargerEntry 0 1 10 chargerQuote ∧
      ∃ provisioned, provision budgetMission.brief 0 1 0 = .ok provisioned ∧
        (authorizeCheckout chargerQuote provisioned.mandate 10).allowed = true ∧
        ∀ setId constraintId,
          provisioned.constraintSet setId constraintId = none ∧
          ¬Authorizes chargerQuote provisioned.mandate
            (provisioned.constraintSet setId constraintId) 10 := by
  refine ⟨chargerEntry_satisfies.1, chargerQuote_quotes rfl, _, rfl, ?_, ?_⟩
  · decide +kernel
  · intro setId constraintId
    refine ⟨rfl, ?_⟩
    rintro ⟨authorization, ⟨⟩, authorized⟩
    cases authorized

/-- The purchase of a charger succeeds, and both gates authorize its quote. -/
theorem oracle_agrees_sample :
    (evaluateMission chargerMission chargerPurchase 0 none none).status = .succeeded ∧
      ∃ provisioned, provision chargerMission.brief 0 1 0 = .ok provisioned ∧
        ∃ constraintSet, provisioned.constraintSet 4 (fun _ => 5) = some constraintSet ∧
          Authorizes chargerQuote provisioned.mandate (some constraintSet) 10 := by
  rcases oracle_agrees chargerMission 0 chargerEntry rfl rfl with ⟨evaluator, gates⟩
  constructor
  · exact ((evaluator chargerPurchase none (chargerPurchase_buys rfl) .nothing).mp
      chargerEntry_satisfies.2).1
  · have done : ∃ provisioned, provision chargerMission.brief 0 1 0 = .ok provisioned :=
      ⟨_, rfl⟩
    rcases done with ⟨provisioned, done⟩
    rcases (gates chargerEntry_satisfies.2 1 0 provisioned done chargerQuote 10
        (chargerQuote_quotes rfl) (by decide) (by decide) 4 fun _ => 5).2.1 (by decide +kernel) with
      ⟨constraintSet, _, stored, _, _, authorizes⟩
    exact ⟨provisioned, done, constraintSet, stored, authorizes⟩

end Sample

end AgentRank.Benchmark
