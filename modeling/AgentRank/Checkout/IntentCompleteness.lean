import AgentRank.Checkout.IntentSoundness

/-!
# What keeps the stated intent is authorized

This is the converse of `Checkout.IntentSoundness`.  Every stored rule comes from a
constraint that was stated, so a quote whose lines keep what was stated is satisfied by
the stored rules as well.
-/

namespace AgentRank.Checkout

open Text Constraints Store

variable [CaseFolding]

/-! ## Where the stored rules come from -/

/-- What the loop holds after the constraints `stated`: only rules of required attributes,
each stated category up to its text, and a slot only where a category was stated. -/
structure ScanComesFrom (stated : List HardConstraint) (scan : SpecScan) : Prop where
  attributes : ∀ spec, some spec ∈ scan.specs → ∃ name operator value,
    HardConstraint.requiredAttribute name operator value ∈ stated ∧
      spec.fields = attributeFields name operator value
  noted : ∀ category, HardConstraint.allowedCategory category ∈ stated →
    normalizeText category ∈ scan.seen
  seen : ∀ text ∈ scan.seen, ∃ category ∈ scan.categories, normalizeText category = text
  slot : scan.categorySlot.isSome = true →
    ∃ category, HardConstraint.allowedCategory category ∈ stated

theorem scanComesFrom_nil : ScanComesFrom [] {} where
  attributes _ member := by cases member
  noted _ member := by cases member
  seen _ member := by cases member
  slot held := by cases held

variable {stated : List HardConstraint} {scan : SpecScan}

/-- Stating a financial constraint adds no rule. -/
theorem ScanComesFrom.financial {constraint : HardConstraint} (comes : ScanComesFrom stated scan)
    (isFinancial : constraint.isFinancial = true) :
    ScanComesFrom (stated ++ [constraint]) scan where
  attributes spec member := by
    rcases comes.attributes spec member with ⟨name, operator, value, earlier, fields⟩
    exact ⟨name, operator, value, List.mem_append_left _ earlier, fields⟩
  noted category member := by
    rcases List.mem_append.mp member with earlier | new
    · exact comes.noted category earlier
    · rw [← List.mem_singleton.mp new] at isFinancial
      cases isFinancial
  seen := comes.seen
  slot held := by
    rcases comes.slot held with ⟨category, earlier⟩
    exact ⟨category, List.mem_append_left _ earlier⟩

/-- Stating a required attribute adds its own rule. -/
theorem ScanComesFrom.attribute {name : String} {operator : ConstraintOperator}
    {value : ConstraintValue} {spec : IntentConstraintSpec} (comes : ScanComesFrom stated scan)
    (specFields : spec.fields = attributeFields name operator value) :
    ScanComesFrom (stated ++ [.requiredAttribute name operator value])
      { scan with specs := scan.specs ++ [some spec] } where
  attributes other member := by
    rcases List.mem_append.mp member with earlier | new
    · rcases comes.attributes other earlier with
        ⟨name', operator', value', statedEarlier, fields⟩
      exact ⟨name', operator', value', List.mem_append_left _ statedEarlier, fields⟩
    · cases List.mem_singleton.mp new
      exact ⟨name, operator, value, List.mem_append_right _ (List.mem_singleton_self _),
        specFields⟩
  noted category member := by
    rcases List.mem_append.mp member with earlier | new
    · exact comes.noted category earlier
    · cases List.mem_singleton.mp new
  seen := comes.seen
  slot held := by
    rcases comes.slot held with ⟨category, earlier⟩
    exact ⟨category, List.mem_append_left _ earlier⟩

/-- Stating a category notes its text, and holds the slot. -/
theorem ScanComesFrom.category {category : String} (comes : ScanComesFrom stated scan) :
    ScanComesFrom (stated ++ [.allowedCategory category])
      (scan.noteCategory category).holdSlot := by
  have ofHeld : ∀ held : SpecScan, held.seen = (scan.noteCategory category).seen →
      held.categories = (scan.noteCategory category).categories →
      (∀ spec, some spec ∈ held.specs → some spec ∈ scan.specs) →
      ScanComesFrom (stated ++ [.allowedCategory category]) held := by
    intro held sameSeen sameCategories ofSpecs
    constructor
    · intro spec member
      rcases comes.attributes spec (ofSpecs spec member) with
        ⟨name, operator, value, earlier, fields⟩
      exact ⟨name, operator, value, List.mem_append_left _ earlier, fields⟩
    · intro other member
      rw [sameSeen, SpecScan.noteCategory]
      rcases List.mem_append.mp member with earlier | new
      · have known := comes.noted other earlier
        split
        · exact known
        · exact List.mem_cons_of_mem _ known
      · cases List.mem_singleton.mp new
        split
        · assumption
        · exact List.mem_cons_self
    · intro text member
      rw [sameSeen, SpecScan.noteCategory] at member
      rw [sameCategories, SpecScan.noteCategory]
      split at member
      · next known =>
          rw [if_pos known]
          exact comes.seen text member
      · next unknown =>
          rw [if_neg unknown]
          rcases List.mem_cons.mp member with rfl | earlier
          · exact ⟨category, List.mem_append_right _ (List.mem_singleton_self _), rfl⟩
          · rcases comes.seen text earlier with ⟨other, otherMem, sameText⟩
            exact ⟨other, List.mem_append_left _ otherMem, sameText⟩
    · intro _
      exact ⟨category, List.mem_append_right _ (List.mem_singleton_self _)⟩
  have sameSpecs : (scan.noteCategory category).specs = scan.specs := by
    unfold SpecScan.noteCategory
    split <;> rfl
  unfold SpecScan.holdSlot
  cases slotEq : (scan.noteCategory category).categorySlot with
  | some index =>
      apply ofHeld _ rfl rfl
      intro spec member
      rwa [← sameSpecs]
  | none =>
      refine ofHeld { scan.noteCategory category with
        categorySlot := some (scan.noteCategory category).specs.length
        specs := (scan.noteCategory category).specs ++ [none] } rfl rfl ?_
      intro spec member
      rw [sameSpecs] at member
      simpa using member

/-- One turn of the loop adds only what the next constraint states. -/
theorem scanComesFrom_step {next : SpecScan} {constraint : HardConstraint}
    (comes : ScanComesFrom stated scan) (turned : scan.step constraint = .ok next) :
    ScanComesFrom (stated ++ [constraint]) next := by
  cases constraint with
  | allowedCategory category =>
      cases turned
      exact comes.category
  | requiredAttribute name operator value =>
      simp only [SpecScan.step] at turned
      cases made : IntentConstraintSpec.requiredAttribute name operator value with
      | error refusal =>
          rw [made] at turned
          cases turned
      | ok spec =>
          rw [made] at turned
          cases turned
          exact comes.attribute (IntentConstraintSpec.make_eq_ok_iff.mp made)
  | maxTotalAmount | maxQuantity =>
      cases turned
      exact comes.financial rfl

/-- The whole loop adds only what was stated. -/
theorem scanComesFrom_foldlM {remaining : List HardConstraint} {final : SpecScan}
    (comes : ScanComesFrom stated scan)
    (scanned : remaining.foldlM SpecScan.step scan = .ok final) :
    ScanComesFrom (stated ++ remaining) final := by
  induction remaining generalizing stated scan with
  | nil =>
      cases scanned
      rw [List.append_nil]
      exact comes
  | cons constraint rest ih =>
      rw [List.foldlM_cons] at scanned
      cases turned : scan.step constraint with
      | error refusal =>
          rw [turned] at scanned
          cases scanned
      | ok next =>
          rw [turned] at scanned
          have collected := ih (scanComesFrom_step comes turned) scanned
          rwa [List.append_assoc] at collected

/-- A stored rule is that of a required attribute that was stated, or the membership rule,
which covers every category that was stated. -/
inductive ComesFrom (stated : List HardConstraint) (spec : IntentConstraintSpec) : Prop
  | required (name : String) (operator : ConstraintOperator) (value : ConstraintValue)
      (member : HardConstraint.requiredAttribute name operator value ∈ stated)
      (fields : spec.fields = attributeFields name operator value)
  | membership (categories : List String)
      (fields : spec.fields = categoryFields categories)
      (covers : ∀ category, HardConstraint.allowedCategory category ∈ stated →
        ∃ noted ∈ categories, SameText noted category)
      (present : ∃ category, HardConstraint.allowedCategory category ∈ stated)

/-- Finishing the loop adds the membership rule and nothing else. -/
theorem ScanComesFrom.finish {specs : List IntentConstraintSpec}
    (comes : ScanComesFrom stated scan) (finished : scan.finish = .ok specs) :
    ∀ spec ∈ specs, ComesFrom stated spec := by
  have ofScan : ∀ spec, some spec ∈ scan.specs → ComesFrom stated spec := by
    intro spec member
    rcases comes.attributes spec member with ⟨name, operator, value, earlier, fields⟩
    exact .required name operator value earlier fields
  intro spec specMem
  unfold SpecScan.finish at finished
  cases slotEq : scan.categorySlot with
  | none =>
      simp only [slotEq] at finished
      cases finished
      exact ofScan spec (List.reduceOption_mem_iff.mp specMem)
  | some index =>
      simp only [slotEq] at finished
      cases made : IntentConstraintSpec.allowedCategories scan.categories with
      | error refusal =>
          rw [made] at finished
          cases finished
      | ok rule =>
          rw [made] at finished
          cases finished
          have member : some spec ∈ scan.specs.set index (some rule) :=
            List.reduceOption_mem_iff.mp specMem
          rcases List.mem_or_eq_of_mem_set member with earlier | isRule
          · exact ofScan spec earlier
          · cases isRule
            apply ComesFrom.membership scan.categories
              (IntentConstraintSpec.make_eq_ok_iff.mp made)
            · intro category categoryMem
              exact comes.seen _ (comes.noted category categoryMem)
            · exact comes.slot (by rw [slotEq]; rfl)

/-- Nothing is stored that was not stated. -/
theorem request_specs_comeFrom (request : NewIntentConstraints) :
    ∀ spec ∈ request.specs, ComesFrom request.hardConstraints spec := by
  have computed := semanticSpecs_of_accepted request.accepted
  unfold semanticSpecs at computed
  cases scanned : request.hardConstraints.foldlM SpecScan.step {} with
  | error refusal =>
      rw [scanned] at computed
      cases computed
  | ok scan =>
      rw [scanned] at computed
      exact (scanComesFrom_foldlM scanComesFrom_nil scanned).finish computed

/-- A line keeps what was stated: it is of an allowed category where there is one, and each
required attribute is found on it and compares. -/
structure LineKeeps (stated : List HardConstraint) (line : CheckoutLine) : Prop where
  category : (∃ category, HardConstraint.allowedCategory category ∈ stated) →
    ∃ found, line.productCategory = some found ∧
      ∃ allowed, HardConstraint.allowedCategory allowed ∈ stated ∧ SameText allowed found
  attributes : ∀ name operator value,
    HardConstraint.requiredAttribute name operator value ∈ stated →
      ∃ actual, lookupAttribute line.variantAttributes name = some actual ∧
        compare operator value actual = some true

/-- A text is accepted among others exactly when it is the same word as one of them. -/
theorem compare_texts_iff {texts : List String} {found : String} :
    compare .isIn (.tuple (texts.map ScalarValue.string)) (.scalar (.string found)) =
        some true ↔
      ∃ text ∈ texts, SameText text found := by
  cases texts with
  | nil => simp [Constraints.compare]
  | cons first rest =>
      simp [Constraints.compare, ScalarValue.valueType, equal, SameText, Function.comp_def]

/-- A line that keeps what was stated keeps every rule that comes from it. -/
theorem checkLine_of_keeps {spec : IntentConstraintSpec} {line : CheckoutLine}
    (comes : ComesFrom stated spec) (keeps : LineKeeps stated line) :
    checkLine spec line = none := by
  cases comes with
  | required name operator value member fields =>
      rcases keeps.attributes name operator value member with ⟨actual, found, accepted⟩
      simp only [checkLine, checkAttribute, fields, attributeFields, found]
      apply compareFailure_eq_none_iff.mpr
      rw [fields]
      exact accepted
  | membership categories fields covers present =>
      rcases keeps.category present with ⟨found, published, allowed, stated, sameText⟩
      rcases covers allowed stated with ⟨noted, notedMem, sameNoted⟩
      simp only [checkLine, checkCategory, fields, categoryFields, published]
      apply compareFailure_eq_none_iff.mpr
      rw [fields]
      exact compare_texts_iff.mpr ⟨noted, notedMem, sameNoted.trans sameText⟩

/-- A quote whose lines keep what a request states satisfies the rules stored for it. -/
theorem intentSatisfied_of_keeps {request : NewIntentConstraints} {setId : Uuid}
    {constraintId : Nat → Uuid} {checkout : CheckoutSession}
    (merchant : checkout.merchantId = request.merchantId)
    (mandate : checkout.mandateId = request.mandateId) (hasLines : checkout.lines ≠ [])
    (keeps : ∀ line ∈ checkout.lines, LineKeeps request.hardConstraints line) :
    IntentSatisfied checkout (constraintSetRow request setId constraintId) where
  sameMerchant := merchant
  sameMandate := mandate
  hasLines := hasLines
  kept constraint member := by
    simp only [constraintSetRow, List.mem_mapIdx] at member
    rcases member with ⟨index, indexLt, rfl⟩
    refine ⟨request.specs[index], rfl, ?_⟩
    intro line lineMem
    have comes := request_specs_comeFrom request _ (List.getElem_mem indexLt)
    exact checkLine_of_keeps comes (keeps line lineMem)

end AgentRank.Checkout
