import AgentRank.Constraints.Meaning
import AgentRank.Constraints.Request
import AgentRank.Checkout.IntentAuthorization
import AgentRank.Checkout.Quote
import Mathlib.Data.List.ReduceOption

/-!
# Stated intent is enforced end to end

A hard constraint is split between the mandate, which carries the financial
ceilings, and the stored rules, which are evaluated on every quoted line.  This
module gives every constraint kind its declared meaning for a whole checkout,
shows that nothing is lost between stating a constraint and storing it, and
concludes that an authorized checkout means what the buyer stated.

The second half is monotonicity: a larger quote or a larger constraint set is
never authorized where the smaller one is denied.
-/

namespace AgentRank.Checkout

open Text Constraints Relational Store

/-! ## The loop that collects the stored rules -/

/-- The stored form of a required attribute. -/
def attributeFields (name : String) (operator : ConstraintOperator)
    (value : ConstraintValue) : ConstraintFields where
  kind := .requiredAttribute
  attributeKey := some name
  operator := operator
  value := value

/-- The stored form of a list of allowed categories. -/
def categoryFields (categories : List String) : ConstraintFields where
  kind := .allowedCategory
  attributeKey := none
  operator := .isIn
  value := .tuple (categories.map .string)

/-- What the loop has collected after the constraints `stated`: a rule for every
required attribute, only stated categories, and an empty slot for the membership
rule once a category was stated. -/
structure ScanCollects (stated : List HardConstraint) (scan : SpecScan) : Prop where
  attributes : ∀ name operator value,
    HardConstraint.requiredAttribute name operator value ∈ stated →
      ∃ spec : IntentConstraintSpec, some spec ∈ scan.specs ∧
        spec.fields = attributeFields name operator value
  categories : ∀ category ∈ scan.categories,
    HardConstraint.allowedCategory category ∈ stated
  slotHeld : ∀ category, HardConstraint.allowedCategory category ∈ stated →
    scan.categorySlot.isSome = true
  slotEmpty : ∀ index, scan.categorySlot = some index → scan.specs[index]? = some none

theorem scanCollects_nil : ScanCollects [] {} where
  attributes _ _ _ member := absurd member List.not_mem_nil
  categories _ member := absurd member List.not_mem_nil
  slotHeld _ member := absurd member List.not_mem_nil
  slotEmpty _ slotEq := nomatch slotEq

variable {stated : List HardConstraint} {scan : SpecScan} {constraint : HardConstraint}

/-- Stating a financial constraint collects nothing. -/
theorem ScanCollects.financial (collects : ScanCollects stated scan)
    (isFinancial : constraint.isFinancial = true) :
    ScanCollects (stated ++ [constraint]) scan where
  attributes name operator value member := by
    rcases List.mem_append.mp member with earlier | new
    · exact collects.attributes name operator value earlier
    · rw [← List.mem_singleton.mp new] at isFinancial
      cases isFinancial
  categories category member :=
    List.mem_append_left _ (collects.categories category member)
  slotHeld category member := by
    rcases List.mem_append.mp member with earlier | new
    · exact collects.slotHeld category earlier
    · rw [← List.mem_singleton.mp new] at isFinancial
      cases isFinancial
  slotEmpty := collects.slotEmpty

variable {spec : IntentConstraintSpec}

/-- Stating a required attribute collects its rule. -/
theorem ScanCollects.attribute {name : String} {operator : ConstraintOperator}
    {value : ConstraintValue} (collects : ScanCollects stated scan)
    (specFields : spec.fields = attributeFields name operator value) :
    ScanCollects (stated ++ [.requiredAttribute name operator value])
      { scan with specs := scan.specs ++ [some spec] } where
  attributes otherName otherOperator otherValue member := by
    rcases List.mem_append.mp member with earlier | new
    · obtain ⟨other, otherMem, otherFields⟩ :=
        collects.attributes otherName otherOperator otherValue earlier
      exact ⟨other, List.mem_append_left _ otherMem, otherFields⟩
    · cases List.mem_singleton.mp new
      exact ⟨spec, List.mem_append_right _ (List.mem_singleton_self _), specFields⟩
  categories category member :=
    List.mem_append_left _ (collects.categories category member)
  slotHeld category member := by
    rcases List.mem_append.mp member with earlier | new
    · exact collects.slotHeld category earlier
    · cases List.mem_singleton.mp new
  slotEmpty index slotEq := by
    have heldEmpty := collects.slotEmpty index slotEq
    have inRange : index < scan.specs.length :=
      (List.getElem?_eq_some_iff.mp heldEmpty).1
    exact (List.getElem?_append_left inRange).trans heldEmpty

/-- Holding a slot keeps what was collected and makes the slot available. -/
theorem ScanCollects.holdSlot (collects : ScanCollects stated scan) :
    ScanCollects stated scan.holdSlot ∧ scan.holdSlot.categorySlot.isSome = true := by
  unfold SpecScan.holdSlot
  cases slotEq : scan.categorySlot with
  | some index => exact ⟨collects, by simp [slotEq]⟩
  | none =>
      refine
        ⟨{ attributes := ?_
           categories := collects.categories
           slotHeld := ?_
           slotEmpty := ?_ }, rfl⟩
      · intro name operator value member
        obtain ⟨spec, specMem, specFields⟩ :=
          collects.attributes name operator value member
        exact ⟨spec, List.mem_append_left _ specMem, specFields⟩
      · intro category _
        rfl
      · intro index indexEq
        cases indexEq
        simp

section Scan

variable [CaseFolding]

/-- Noting a category keeps what was collected. -/
theorem ScanCollects.noteCategory {category : String} (collects : ScanCollects stated scan)
    (slotHeld : scan.categorySlot.isSome = true) :
    ScanCollects (stated ++ [.allowedCategory category]) (scan.noteCategory category) := by
  unfold SpecScan.noteCategory
  have attributes : ∀ name operator value,
      HardConstraint.requiredAttribute name operator value ∈
          stated ++ [.allowedCategory category] →
        ∃ spec : IntentConstraintSpec, some spec ∈ scan.specs ∧
          spec.fields = attributeFields name operator value := by
    intro name operator value member
    rcases List.mem_append.mp member with earlier | new
    · exact collects.attributes name operator value earlier
    · cases List.mem_singleton.mp new
  split
  · exact
      { attributes := attributes
        categories := fun other member =>
          List.mem_append_left _ (collects.categories other member)
        slotHeld := fun _ _ => slotHeld
        slotEmpty := collects.slotEmpty }
  · refine
      { attributes := attributes
        categories := ?_
        slotHeld := fun _ _ => slotHeld
        slotEmpty := collects.slotEmpty }
    intro other member
    rcases List.mem_append.mp member with earlier | new
    · exact List.mem_append_left _ (collects.categories other earlier)
    · cases List.mem_singleton.mp new
      exact List.mem_append_right _ (List.mem_singleton_self _)

/-- The slot is held in the same way before and after a category is noted. -/
theorem noteCategory_holdSlot (scan : SpecScan) (category : String) :
    (scan.noteCategory category).holdSlot = scan.holdSlot.noteCategory category := by
  by_cases known : normalizeText category ∈ scan.seen
  · cases slotEq : scan.categorySlot <;>
      simp [SpecScan.noteCategory, SpecScan.holdSlot, known, slotEq]
  · cases slotEq : scan.categorySlot <;>
      simp [SpecScan.noteCategory, SpecScan.holdSlot, known, slotEq]

/-- One turn of the loop collects one more stated constraint. -/
theorem scanCollects_step {next : SpecScan} (collects : ScanCollects stated scan)
    (turned : scan.step constraint = .ok next) :
    ScanCollects (stated ++ [constraint]) next := by
  cases constraint with
  | allowedCategory category =>
      cases turned
      rw [noteCategory_holdSlot]
      exact collects.holdSlot.1.noteCategory collects.holdSlot.2
  | requiredAttribute name operator value =>
      simp only [SpecScan.step] at turned
      cases made : IntentConstraintSpec.requiredAttribute name operator value with
      | error refusal =>
          rw [made] at turned
          cases turned
      | ok spec =>
          rw [made] at turned
          cases turned
          exact collects.attribute (IntentConstraintSpec.make_eq_ok_iff.mp made)
  | maxTotalAmount amountMinor currency =>
      cases turned
      exact collects.financial rfl
  | maxQuantity quantity =>
      cases turned
      exact collects.financial rfl

/-- The whole loop collects every stated constraint. -/
theorem scanCollects_foldlM {remaining : List HardConstraint} {final : SpecScan}
    (collects : ScanCollects stated scan)
    (scanned : remaining.foldlM SpecScan.step scan = .ok final) :
    ScanCollects (stated ++ remaining) final := by
  induction remaining generalizing stated scan with
  | nil =>
      cases scanned
      rw [List.append_nil]
      exact collects
  | cons constraint rest ih =>
      rw [List.foldlM_cons] at scanned
      cases turned : scan.step constraint with
      | error refusal =>
          rw [turned] at scanned
          cases scanned
      | ok next =>
          rw [turned] at scanned
          have collected := ih (scanCollects_step collects turned) scanned
          rwa [List.append_assoc] at collected

end Scan

/-! ## What is stored -/

/-- What is stored for a list of hard constraints: a rule for every required
attribute and, when a category was stated, a membership rule over stated
categories. -/
structure SpecsEnforce (stated : List HardConstraint)
    (specs : List IntentConstraintSpec) : Prop where
  attributes : ∀ name operator value,
    HardConstraint.requiredAttribute name operator value ∈ stated →
      ∃ spec ∈ specs, spec.fields = attributeFields name operator value
  categories : ∀ category, HardConstraint.allowedCategory category ∈ stated →
    ∃ spec ∈ specs, ∃ allowed : List String,
      (∀ other ∈ allowed, HardConstraint.allowedCategory other ∈ stated) ∧
        spec.fields = categoryFields allowed

/-- Filling an empty slot keeps every rule that stands elsewhere. -/
theorem some_mem_set_of_slot_none {specs : List (Option IntentConstraintSpec)} {index : Nat}
    {rule : Option IntentConstraintSpec} (slotEmpty : specs[index]? = some none)
    (member : some spec ∈ specs) :
    some spec ∈ specs.set index rule := by
  obtain ⟨position, positionLt, positionEq⟩ := List.getElem_of_mem member
  have different : index ≠ position := by
    rintro rfl
    rw [List.getElem?_eq_getElem positionLt, positionEq] at slotEmpty
    cases slotEmpty
  have untouched : (specs.set index rule)[position]? = some (some spec) := by
    rw [List.getElem?_set_ne different, List.getElem?_eq_getElem positionLt, positionEq]
  exact List.mem_of_getElem? untouched

variable {specs : List IntentConstraintSpec}

/-- Finishing the loop stores everything that it collected. -/
theorem ScanCollects.finish (collects : ScanCollects stated scan)
    (finished : scan.finish = .ok specs) : SpecsEnforce stated specs := by
  unfold SpecScan.finish at finished
  cases slotEq : scan.categorySlot with
  | none =>
      simp only [slotEq] at finished
      cases finished
      refine { attributes := ?_, categories := ?_ }
      · intro name operator value member
        obtain ⟨spec, specMem, specFields⟩ :=
          collects.attributes name operator value member
        exact ⟨spec, List.reduceOption_mem_iff.mpr specMem, specFields⟩
      · intro category member
        have held := collects.slotHeld category member
        rw [slotEq] at held
        cases held
  | some index =>
      simp only [slotEq] at finished
      have heldEmpty := collects.slotEmpty index slotEq
      have inRange : index < scan.specs.length :=
        (List.getElem?_eq_some_iff.mp heldEmpty).1
      cases made : IntentConstraintSpec.allowedCategories scan.categories with
      | error refusal =>
          rw [made] at finished
          cases finished
      | ok rule =>
          rw [made] at finished
          cases finished
          refine { attributes := ?_, categories := ?_ }
          · intro name operator value member
            obtain ⟨spec, specMem, specFields⟩ :=
              collects.attributes name operator value member
            exact ⟨spec, List.reduceOption_mem_iff.mpr
              (some_mem_set_of_slot_none heldEmpty specMem), specFields⟩
          · intro category member
            exact ⟨rule, List.reduceOption_mem_iff.mpr (List.mem_set inRange _),
              scan.categories, collects.categories,
              IntentConstraintSpec.make_eq_ok_iff.mp made⟩

section EndToEnd

variable [CaseFolding]

/-- Nothing that was stated is dropped before it is stored. -/
theorem semanticSpecs_enforce (computed : semanticSpecs stated = .ok specs) :
    SpecsEnforce stated specs := by
  unfold semanticSpecs at computed
  cases scanned : stated.foldlM SpecScan.step {} with
  | error refusal =>
      rw [scanned] at computed
      cases computed
  | ok scan =>
      rw [scanned] at computed
      exact (scanCollects_foldlM scanCollects_nil scanned).finish computed

/-- The specifications of an accepted request are those that it computed. -/
theorem semanticSpecs_of_accepted (accepted : validateHardConstraints stated = .ok specs) :
    semanticSpecs stated = .ok specs := by
  unfold validateHardConstraints at accepted
  split at accepted
  · cases accepted
  · split at accepted
    · cases accepted
    · cases computed : semanticSpecs stated with
      | error refusal =>
          rw [computed] at accepted
          cases accepted
      | ok found =>
          rw [computed] at accepted
          simp only [bind, Except.bind] at accepted
          split at accepted
          · cases accepted
          · split at accepted
            · cases accepted
            · exact accepted

/-- The specifications of an accepted request enforce what it states. -/
theorem request_specs_enforce (request : NewIntentConstraints) :
    SpecsEnforce request.hardConstraints request.specs :=
  semanticSpecs_enforce (semanticSpecs_of_accepted request.accepted)

/-! ## The declared meaning of a hard constraint -/

/-- What one of the constraints `stated` asks of a whole checkout.  Several
allowed categories mean any one of them. -/
def Means (stated : List HardConstraint) (checkout : CheckoutSession) :
    HardConstraint → Prop
  | .maxTotalAmount amountMinor currency =>
      checkout.currency = currency ∧ (checkout.totalAmountMinor : Int) ≤ amountMinor
  | .maxQuantity quantity => (checkoutQuantity checkout : Int) ≤ quantity
  | .requiredAttribute name operator value =>
      ∀ line ∈ checkout.lines, ∃ actual,
        line.variantAttributes.Names name (.scalar actual) ∧
          Satisfies operator value actual
  | .allowedCategory _ =>
      ∀ line ∈ checkout.lines, ∃ category, line.productCategory = some category ∧
        ∃ allowed, HardConstraint.allowedCategory allowed ∈ stated ∧
          SameText allowed category

omit [CaseFolding] in
/-- The value of a stored rule is homogeneous. -/
theorem IntentConstraintSpec.homogeneous (spec : IntentConstraintSpec) :
    Homogeneous spec.fields.value := by
  have valid := spec.valid
  unfold ConstraintFields.validate at valid
  cases validated : validateConstraintValue spec.fields.operator spec.fields.value with
  | error refusal =>
      rw [validated] at valid
      cases valid
  | ok _ => exact validateConstraintValue_homogeneous validated

/-- A comparison reports no failure exactly when it accepts. -/
theorem compareFailure_eq_none_iff {mismatch : IntentViolationCode} {actual : Json} :
    compareFailure spec mismatch actual = none ↔
      compare spec.fields.operator spec.fields.value actual = some true := by
  unfold compareFailure
  cases compare spec.fields.operator spec.fields.value actual with
  | none => simp
  | some result => cases result <;> simp

/-- A line that keeps a required attribute carries it as declared. -/
theorem checkLine_attribute {line : CheckoutLine} {name : String} {operator : ConstraintOperator}
    {value : ConstraintValue} (specFields : spec.fields = attributeFields name operator value)
    (kept : checkLine spec line = none) :
    ∃ actual, line.variantAttributes.Names name (.scalar actual) ∧
      Satisfies operator value actual := by
  have homogeneous := IntentConstraintSpec.homogeneous spec
  simp only [checkLine, checkAttribute, specFields, attributeFields] at kept
  cases found : lookupAttribute line.variantAttributes name with
  | none => simp [found] at kept
  | some actual =>
      simp only [found] at kept
      have accepted := compareFailure_eq_none_iff.mp kept
      rw [specFields] at homogeneous accepted
      obtain ⟨scalar, rfl, satisfied⟩ := compare_eq_some_true homogeneous accepted
      exact ⟨scalar, lookupAttribute_names found, satisfied⟩

/-- A line that keeps a membership rule is of one of its categories. -/
theorem checkLine_category {line : CheckoutLine} {allowed : List String}
    (specFields : spec.fields = categoryFields allowed) (kept : checkLine spec line = none) :
    ∃ category, line.productCategory = some category ∧
      ∃ stated ∈ allowed, SameText stated category := by
  have homogeneous := IntentConstraintSpec.homogeneous spec
  simp only [checkLine, checkCategory, specFields, categoryFields] at kept
  cases categoryEq : line.productCategory with
  | none => simp [categoryEq] at kept
  | some category =>
      simp only [categoryEq] at kept
      have accepted := compareFailure_eq_none_iff.mp kept
      rw [specFields] at homogeneous accepted
      obtain ⟨scalar, scalarEq, satisfied⟩ := compare_eq_some_true homogeneous accepted
      cases scalarEq
      obtain ⟨member, memberMem, sameValue⟩ := satisfied
      obtain ⟨stated, statedMem, rfl⟩ := List.mem_map.mp memberMem
      exact ⟨category, rfl, stated, statedMem, sameValue⟩

variable {checkout : CheckoutSession} {mandate : SpendingMandate}

omit [CaseFolding] in
/-- A ceiling that the mandate was checked against holds of every quote the
mandate pays for. -/
theorem checkAgainstMandate_means {instant : Instant}
    (checked : checkAgainstMandate mandate constraint = .ok ())
    (authorized : FinanciallyAuthorized checkout mandate instant) :
    (∀ amountMinor currency, constraint = .maxTotalAmount amountMinor currency →
      checkout.currency = currency ∧ (checkout.totalAmountMinor : Int) ≤ amountMinor) ∧
    (∀ quantity, constraint = .maxQuantity quantity →
      (checkoutQuantity checkout : Int) ≤ quantity) := by
  constructor
  · rintro amountMinor currency rfl
    simp only [checkAgainstMandate] at checked
    split at checked
    · cases checked
    · next sameCurrency =>
        split at checked
        · cases checked
        · next ceiling =>
            have total := authorized.totalWithin
            exact ⟨authorized.sameCurrency.trans (not_not.mp sameCurrency).symm, by omega⟩
  · rintro quantity rfl
    simp only [checkAgainstMandate] at checked
    cases ceilingEq : mandate.maxQuantity with
    | none => simp [ceilingEq] at checked
    | some ceiling =>
        simp only [ceilingEq] at checked
        split at checked
        · cases checked
        · next bounded =>
            have count := authorized.quantityWithin ceiling ceilingEq
            omega

variable {request : NewIntentConstraints}

/-- Every specification of a request has its row in the stored set. -/
theorem mem_constraintSetRow (setId : Uuid) (constraintId : Nat → Uuid)
    (member : spec ∈ request.specs) :
    ∃ constraint ∈ (constraintSetRow request setId constraintId).constraints,
      constraint.fields = spec.fields := by
  obtain ⟨index, indexLt, specEq⟩ := List.getElem_of_mem member
  refine ⟨{ id := constraintId index, fields := spec.fields }, ?_, rfl⟩
  simp only [constraintSetRow, List.mem_mapIdx]
  exact ⟨index, indexLt, by rw [specEq]⟩

/-- A kept row keeps the rule it was written from. -/
theorem kept_of_mem_specs {setId : Uuid} {constraintId : Nat → Uuid}
    (satisfied : IntentSatisfied checkout (constraintSetRow request setId constraintId))
    (member : spec ∈ request.specs) :
    ∀ line ∈ checkout.lines, checkLine spec line = none := by
  obtain ⟨constraint, constraintMem, constraintFields⟩ :=
    mem_constraintSetRow setId constraintId member
  obtain ⟨stored, storedFields, kept⟩ := satisfied.kept constraint constraintMem
  have sameSpec : stored = spec := by
    cases stored
    cases spec
    simp only [IntentConstraintSpec.mk.injEq]
    exact storedFields.trans constraintFields
  rw [← sameSpec]
  exact kept

/-- Both gates together leave no stated constraint unmet. -/
theorem means_of_authorized {setId : Uuid} {constraintId : Nat → Uuid} {instant : Instant}
    (checked : ∀ constraint ∈ request.financialConstraints,
      checkAgainstMandate mandate constraint = .ok ())
    (financial : FinanciallyAuthorized checkout mandate instant)
    (satisfied : IntentSatisfied checkout (constraintSetRow request setId constraintId))
    (stated : constraint ∈ request.hardConstraints) :
    Means request.hardConstraints checkout constraint := by
  have enforced := request_specs_enforce request
  cases constraint with
  | maxTotalAmount amountMinor currency =>
      have member :
          HardConstraint.maxTotalAmount amountMinor currency ∈
            request.financialConstraints :=
        List.mem_filter.mpr ⟨stated, rfl⟩
      exact (checkAgainstMandate_means (checked _ member) financial).1 _ _ rfl
  | maxQuantity quantity =>
      have member : HardConstraint.maxQuantity quantity ∈ request.financialConstraints :=
        List.mem_filter.mpr ⟨stated, rfl⟩
      exact (checkAgainstMandate_means (checked _ member) financial).2 _ rfl
  | requiredAttribute name operator value =>
      obtain ⟨spec, specMem, specFields⟩ :=
        enforced.attributes name operator value stated
      intro line lineMem
      exact checkLine_attribute specFields (kept_of_mem_specs satisfied specMem line lineMem)
  | allowedCategory category =>
      obtain ⟨spec, specMem, allowed, allowedStated, specFields⟩ :=
        enforced.categories category stated
      intro line lineMem
      obtain ⟨found, foundEq, other, otherMem, sameText⟩ :=
        checkLine_category specFields (kept_of_mem_specs satisfied specMem line lineMem)
      exact ⟨found, foundEq, other, allowedStated other otherMem, sameText⟩

/-! ## Monotonicity -/

/-- The composed gate permits a checkout under a mandate and a constraint set. -/
def Authorizes (checkout : CheckoutSession) (mandate : SpendingMandate)
    (constraintSet : Option IntentConstraintSet) (instant : Instant) : Prop :=
  ∃ authorization,
    authorizeCheckoutExecution checkout mandate constraintSet instant =
      .ok authorization ∧ authorization.authorized = true

/-- The larger quote is the smaller one with one more line. -/
structure AddsLine (smaller larger : CheckoutSession) : Prop where
  lines : ∃ before line after, smaller.lines = before ++ after ∧
    larger.lines = before ++ line :: after
  sameMerchant : larger.merchantId = smaller.merchantId
  sameMandate : larger.mandateId = smaller.mandateId
  sameCurrency : larger.currency = smaller.currency
  sameShipping : larger.shippingAmountMinor = smaller.shippingAmountMinor
  sameDiscount : larger.discountAmountMinor = smaller.discountAmountMinor
  sameStatus : larger.status = smaller.status
  sameExpiry : larger.expiresAt = smaller.expiresAt

/-- The larger constraint set is the smaller one with one more rule. -/
structure AddsConstraint (smaller larger : IntentConstraintSet) : Prop where
  constraints : ∃ before constraint after, smaller.constraints = before ++ after ∧
    larger.constraints = before ++ constraint :: after
  sameMerchant : larger.merchantId = smaller.merchantId
  sameMandate : larger.mandateId = smaller.mandateId

variable {smaller larger : CheckoutSession}

omit [CaseFolding] in
/-- A quote with one more line costs at least as much. -/
theorem AddsLine.total_le (adds : AddsLine smaller larger) (smallerQuote : IsQuote smaller)
    (largerQuote : IsQuote larger) :
    smaller.totalAmountMinor ≤ larger.totalAmountMinor := by
  obtain ⟨before, line, after, smallerLines, largerLines⟩ := adds.lines
  have smallerTotal := smallerQuote.total
  have largerTotal := largerQuote.total
  rw [smallerQuote.subtotal, smallerLines] at smallerTotal
  rw [largerQuote.subtotal, largerLines, adds.sameDiscount, adds.sameShipping] at largerTotal
  simp only [List.map_append, List.map_cons, List.sum_append, List.sum_cons] at *
  omega

omit [CaseFolding] in
/-- A quote with one more line covers at least as many units. -/
theorem AddsLine.quantity_le (adds : AddsLine smaller larger) :
    checkoutQuantity smaller ≤ checkoutQuantity larger := by
  obtain ⟨before, line, after, smallerLines, largerLines⟩ := adds.lines
  simp only [checkoutQuantity, smallerLines, largerLines, List.map_append, List.map_cons,
    List.sum_append, List.sum_cons]
  omega

omit [CaseFolding] in
/-- A mandate that pays for the larger quote pays for the smaller one. -/
theorem AddsLine.financiallyAuthorized {instant : Instant} (adds : AddsLine smaller larger)
    (smallerQuote : IsQuote smaller) (largerQuote : IsQuote larger)
    (authorized : FinanciallyAuthorized larger mandate instant) :
    FinanciallyAuthorized smaller mandate instant where
  mandateActive := authorized.mandateActive
  validFrom := authorized.validFrom
  validUntil := authorized.validUntil
  sameMerchant := adds.sameMerchant ▸ authorized.sameMerchant
  sameMandate := adds.sameMandate ▸ authorized.sameMandate
  checkoutOpen := adds.sameStatus ▸ authorized.checkoutOpen
  unexpired := adds.sameExpiry ▸ authorized.unexpired
  sameCurrency := adds.sameCurrency ▸ authorized.sameCurrency
  totalWithin := (adds.total_le smallerQuote largerQuote).trans authorized.totalWithin
  quantityWithin ceiling ceilingEq :=
    adds.quantity_le.trans (authorized.quantityWithin ceiling ceilingEq)

/-- A constraint set kept by the larger quote is kept by the smaller one. -/
theorem AddsLine.intentSatisfied {constraintSet : IntentConstraintSet}
    (adds : AddsLine smaller larger) (smallerQuote : IsQuote smaller)
    (satisfied : IntentSatisfied larger constraintSet) :
    IntentSatisfied smaller constraintSet where
  sameMerchant := adds.sameMerchant ▸ satisfied.sameMerchant
  sameMandate := adds.sameMandate ▸ satisfied.sameMandate
  hasLines := smallerQuote.hasLines
  kept constraint member := by
    obtain ⟨spec, specFields, kept⟩ := satisfied.kept constraint member
    refine ⟨spec, specFields, ?_⟩
    intro line lineMem
    apply kept
    obtain ⟨before, added, after, smallerLines, largerLines⟩ := adds.lines
    rw [smallerLines, List.mem_append] at lineMem
    rw [largerLines, List.mem_append, List.mem_cons]
    rcases lineMem with first | last
    · exact Or.inl first
    · exact Or.inr (Or.inr last)

/-- A quote that satisfies the larger constraint set satisfies the smaller one. -/
theorem AddsConstraint.intentSatisfied {smaller larger : IntentConstraintSet}
    (adds : AddsConstraint smaller larger) (satisfied : IntentSatisfied checkout larger) :
    IntentSatisfied checkout smaller where
  sameMerchant := satisfied.sameMerchant.trans adds.sameMerchant
  sameMandate := satisfied.sameMandate.trans adds.sameMandate
  hasLines := satisfied.hasLines
  kept constraint member := by
    apply satisfied.kept
    obtain ⟨before, added, after, smallerRules, largerRules⟩ := adds.constraints
    rw [smallerRules, List.mem_append] at member
    rw [largerRules, List.mem_append, List.mem_cons]
    rcases member with first | last
    · exact Or.inl first
    · exact Or.inr (Or.inr last)

/-- A constraint set that was created against a mandate, and a checkout that is
authorized under both, leave every stated constraint satisfied as declared; and
neither a further line nor a further rule turns a denial into an authorization. -/
theorem stated_intent_enforced :
    (∀ (request : NewIntentConstraints) (capability : Option BenchmarkRunCapability)
      (credentialId : Option Uuid) (setId : Uuid) (constraintId : Nat → Uuid)
      (database final : Database) (constraintSet : IntentConstraintSet)
      (mandate : SpendingMandate) (checkout : CheckoutSession) (instant : Instant),
      createConstraints request capability credentialId setId constraintId database =
        .ok (constraintSet, final) →
      findMandate database request.mandateId request.merchantId = some mandate →
      Authorizes checkout mandate (some constraintSet) instant →
      ∀ constraint ∈ request.hardConstraints,
        Means request.hardConstraints checkout constraint) ∧
    (∀ (smaller larger : CheckoutSession) (mandate : SpendingMandate)
      (constraintSet : Option IntentConstraintSet) (instant : Instant),
      IsQuote smaller → IsQuote larger → AddsLine smaller larger →
      ¬Authorizes smaller mandate constraintSet instant →
      ¬Authorizes larger mandate constraintSet instant) ∧
    (∀ (smaller larger : IntentConstraintSet) (mandate : SpendingMandate)
      (checkout : CheckoutSession) (instant : Instant),
      AddsConstraint smaller larger →
      ¬Authorizes checkout mandate (some smaller) instant →
      ¬Authorizes checkout mandate (some larger) instant) := by
  refine ⟨?_, ?_, ?_⟩
  · intro request capability credentialId setId constraintId database final constraintSet
      mandate checkout instant created mandateEq authorized constraint stated
    obtain ⟨rfl, found, foundEq, _, checked⟩ := createConstraints_eq_ok created
    rw [mandateEq] at foundEq
    cases foundEq
    obtain ⟨financial, evaluated, evaluatedEq, satisfied⟩ :=
      (authorizeCheckoutExecution_authorized_iff _ _ _ _).mp authorized
    cases evaluatedEq
    exact means_of_authorized checked financial satisfied stated
  · intro smaller larger mandate constraintSet instant smallerQuote largerQuote adds denied
      authorized
    apply denied
    obtain ⟨financial, found, foundEq, satisfied⟩ :=
      (authorizeCheckoutExecution_authorized_iff _ _ _ _).mp authorized
    exact (authorizeCheckoutExecution_authorized_iff _ _ _ _).mpr
      ⟨adds.financiallyAuthorized smallerQuote largerQuote financial, found, foundEq,
        adds.intentSatisfied smallerQuote satisfied⟩
  · intro smaller larger mandate checkout instant adds denied authorized
    apply denied
    obtain ⟨financial, found, foundEq, satisfied⟩ :=
      (authorizeCheckoutExecution_authorized_iff _ _ _ _).mp authorized
    cases foundEq
    exact (authorizeCheckoutExecution_authorized_iff _ _ _ _).mpr
      ⟨financial, smaller, rfl, adds.intentSatisfied satisfied⟩

end EndToEnd

/-! ## A sample purchase -/

section Sample

local instance : CaseFolding := asciiFolding

/-- An active authorization of up to 500 and two units, from 0 to 1000. -/
def sampleMandate : SpendingMandate where
  id := 1
  merchantId := 0
  maxTotalAmountMinor := 500
  currency := "INR"
  maxQuantity := some 2
  validFrom := 0
  validUntil := 1000
  status := .active
  revokedAt := none

/-- The only attribute the sample catalog states. -/
def sampleAttributes : Attributes :=
  ⟨[("Color", .scalar (.string "Black"))], by decide⟩

/-- Variant 3, priced at 400, with five units in stock. -/
def sampleVariant : Variant where
  id := 3
  merchantId := 0
  productId := 7
  priceAmountMinor := 400
  currency := "INR"
  inventoryQuantity := 5
  attributes := sampleAttributes
  isActive := true

/-- One unit of variant 3 at 400, in black. -/
def sampleLine : CheckoutLine where
  id := 0
  variantId := 3
  quantity := 1
  unitPriceAmountMinor := 400
  productCategory := some "chargers"
  variantAttributes := sampleAttributes

/-- An open quote of the sample line that expires at 900. -/
def sampleCheckout : CheckoutSession where
  id := 2
  merchantId := 0
  mandateId := 1
  currency := "INR"
  subtotalAmountMinor := 400
  shippingAmountMinor := 0
  discountAmountMinor := 0
  totalAmountMinor := 400
  status := .isOpen
  expiresAt := 900
  cancelledAt := none
  paidAt := none
  lines := [sampleLine]
  variantsNodup := by decide

/-- One merchant with five units of one variant, a mandate and a quote. -/
def sampleDatabase : Database where
  merchants := ⟨[⟨0⟩], by decide⟩
  products := ⟨[{ id := 7, category := some "chargers", isActive := true }], by decide⟩
  variants := ⟨[sampleVariant], by decide⟩
  mandates := ⟨[sampleMandate], by decide⟩
  constraintSets := .empty
  checkouts := ⟨[sampleCheckout], by decide⟩
  reservations := .empty
  attempts := .empty
  razorpayCheckouts := .empty
  benchmarkRuns := .empty
  auditEvents := []

/-- Black, from the chargers, for at most 500. -/
def sampleConstraints : List HardConstraint :=
  [.maxTotalAmount 500 "INR", .allowedCategory "Chargers",
    .requiredAttribute "color" .eq (.single (.string "black"))]

def sampleSpecs : List IntentConstraintSpec :=
  [⟨categoryFields ["Chargers"], rfl⟩,
    ⟨attributeFields "color" .eq (.single (.string "black")), rfl⟩]

def sampleRequest : NewIntentConstraints where
  merchantId := 0
  mandateId := 1
  hardConstraints := sampleConstraints
  specs := sampleSpecs
  accepted := rfl

/-- The constraint set the sample request is stored as. -/
def sampleConstraintSet : IntentConstraintSet :=
  constraintSetRow sampleRequest 4 fun index => ⟨BitVec.ofNat 128 (5 + index)⟩

theorem sampleRequest_created :
    ∃ final, createConstraints sampleRequest none none 4 (fun index => ⟨BitVec.ofNat 128 (5 + index)⟩)
      sampleDatabase = .ok (sampleConstraintSet, final) :=
  ⟨_, rfl⟩

theorem sampleCheckout_authorized :
    Authorizes sampleCheckout sampleMandate (some sampleConstraintSet) 10 :=
  ⟨_, rfl, rfl⟩

theorem sampleCheckout_denied_late (constraintSet : Option IntentConstraintSet) :
    ¬Authorizes sampleCheckout sampleMandate constraintSet 950 := by
  intro authorized
  have financial := ((authorizeCheckoutExecution_authorized_iff _ _ _ _).mp authorized).1
  exact absurd financial.unexpired (by decide)

/-- The sample quote with a second line. -/
def sampleLargerCheckout : CheckoutSession :=
  { sampleCheckout with
    subtotalAmountMinor := 450
    totalAmountMinor := 450
    lines := [sampleLine, { sampleLine with id := 1, variantId := 6, unitPriceAmountMinor := 50 }]
    variantsNodup := by decide }

/-- The sample constraint set with a third rule. -/
def sampleLargerConstraintSet : IntentConstraintSet :=
  { sampleConstraintSet with
    constraints :=
      { id := 9, fields := attributeFields "size" .eq (.single (.string "small")) } ::
        sampleConstraintSet.constraints }

/-- The sample purchase is black as required, and neither a second line nor a
third rule revives it once the quote has expired. -/
theorem stated_intent_enforced_sample :
    Means sampleConstraints sampleCheckout
        (.requiredAttribute "color" .eq (.single (.string "black"))) ∧
      ¬Authorizes sampleLargerCheckout sampleMandate (some sampleConstraintSet) 950 ∧
      ¬Authorizes sampleCheckout sampleMandate (some sampleLargerConstraintSet) 950 := by
  obtain ⟨final, created⟩ := sampleRequest_created
  refine ⟨?_, ?_, ?_⟩
  · exact stated_intent_enforced.1 sampleRequest none none 4 _ sampleDatabase final
      sampleConstraintSet sampleMandate sampleCheckout 10 created rfl
      sampleCheckout_authorized _ (by decide)
  · refine stated_intent_enforced.2.1 sampleCheckout sampleLargerCheckout sampleMandate
      (some sampleConstraintSet) 950 ?_ ?_ ?_ (sampleCheckout_denied_late _)
    · exact ⟨by decide, by decide, rfl, rfl⟩
    · exact ⟨by decide, by decide, rfl, rfl⟩
    · exact ⟨⟨[sampleLine], _, [], rfl, rfl⟩, rfl, rfl, rfl, rfl, rfl, rfl, rfl⟩
  · refine stated_intent_enforced.2.2 sampleConstraintSet sampleLargerConstraintSet
      sampleMandate sampleCheckout 950 ?_ (sampleCheckout_denied_late _)
    exact ⟨⟨[], _, sampleConstraintSet.constraints, rfl, rfl⟩, rfl, rfl⟩

end Sample

end AgentRank.Checkout
