import AgentRank.Compiler.Service

/-!
# What reviews leave of the candidates

A candidate stands for one reading of the source.  Under a sound review it comes to one
proposal or to none, and the proposal says what the reading says, what the review accepts, or
what the review states instead.
-/

namespace AgentRank.Compiler

open Constraints Relational Representation Store Text

/-! ## Sound candidates and reviews -/

/-- What a reading says can be shown at its subject, and what is left to a review is a feature
or a compatibility of a variant. -/
structure Reading.Stated (reading : Reading) : Prop where
  feature : ∀ sku key, reading.subject = .variant sku (.feature key) →
    reading.attributeKind.isSome = true ∧ isBlank key = false
  availability : ∀ sku, reading.subject = .variant sku .availability →
    isValueState reading.value = true
  compatibility : ∀ sku capability, reading.subject = .variant sku (.compatibility capability) →
    isValueState reading.value = true ∧ reading.attributeKind = none
  reviewed : reading.basis.state = .reviewRequired →
    ∃ sku, (∃ key, reading.subject = .variant sku (.feature key)) ∨
      ∃ capability, reading.subject = .variant sku (.compatibility capability)

variable {reading : Reading}

theorem stated_of_other (copied : reading.basis.state ≠ .reviewRequired)
    (isOther : ∀ sku field, reading.subject = .variant sku field → field = .price) :
    reading.Stated where
  feature sku key isFeature := by cases isOther _ _ isFeature
  availability sku isAvailability := by cases isOther _ _ isAvailability
  compatibility sku capability isCompatible := by cases isOther _ _ isCompatible
  reviewed isReviewed := absurd isReviewed copied

theorem stated_of_feature {sku key : String}
    (isFeature : reading.subject = .variant sku (.feature key))
    (isKind : reading.attributeKind.isSome = true) (visible : isBlank key = false) :
    reading.Stated where
  feature other otherKey isOther := by
    cases isFeature.symm.trans isOther
    exact ⟨isKind, visible⟩
  availability other isOther := by cases isFeature.symm.trans isOther
  compatibility other capability isOther := by cases isFeature.symm.trans isOther
  reviewed _ := ⟨sku, Or.inl ⟨key, isFeature⟩⟩

theorem stated_of_compatibility {sku capability : String}
    (isCompatible : reading.subject = .variant sku (.compatibility capability))
    (state : isValueState reading.value = true) (noKind : reading.attributeKind = none) :
    reading.Stated where
  feature other key isOther := by cases isCompatible.symm.trans isOther
  availability other isOther := by cases isCompatible.symm.trans isOther
  compatibility _ _ _ := ⟨state, noKind⟩
  reviewed _ := ⟨sku, Or.inr ⟨capability, isCompatible⟩⟩

theorem isValueState_true : isValueState (.text ValueState.true.value) = true := by
  decide

section Stated

variable [CharacterTables] {reading : Reading}

theorem variantReadings_stated {externalId : String} {variant : SourceVariant}
    (member : reading ∈ variantReadings externalId variant) : reading.Stated := by
  simp only [variantReadings, List.cons_append, List.mem_cons, List.mem_append,
    Option.mem_toList] at member
  rcases member with rfl | rfl | isColor | isLength
  · refine stated_of_other (by rintro ⟨⟩) fun sku field isField => ?_
    cases isField
    rfl
  · constructor
    · intro sku key isFeature
      cases isFeature
    · intro sku _
      change isValueState (.text (availabilityState variant.availability).value) = true
      cases variant.availability <;> decide
    · intro sku capability isCompatible
      cases isCompatible
    · intro isReviewed
      cases isReviewed
  · unfold colorReading at isColor
    split at isColor
    · split at isColor
      · cases isColor
      · cases isColor
        exact stated_of_feature rfl rfl (by decide)
    · cases isColor
  · obtain ⟨_, _, isReading⟩ := Option.bind_eq_some_iff.mp isLength
    obtain ⟨_, _, rfl⟩ := Option.map_eq_some_iff.mp isReading
    exact stated_of_feature rfl rfl (by decide)

theorem semanticReadings_stated {product : SourceProduct}
    (member : reading ∈ semanticReadings product) : reading.Stated := by
  unfold semanticReadings at member
  split at member
  · cases member
  · simp only [List.mem_append] at member
    rcases member with (isWattage | isPorts) | isConnector
    · unfold wattageReadings at isWattage
      split at isWattage
      · cases isWattage
      · split at isWattage <;>
        · obtain ⟨_, _, rfl⟩ := List.mem_map.mp isWattage
          exact stated_of_feature rfl rfl (by decide)
    · unfold portReadings at isPorts
      split at isPorts
      · cases isPorts
      · obtain ⟨_, _, rfl⟩ := List.mem_map.mp isPorts
        exact stated_of_feature rfl rfl (by decide)
    · unfold connectorReadings at isConnector
      split at isConnector
      · split at isConnector
        · cases isConnector
        · obtain ⟨_, _, rfl⟩ := List.mem_map.mp isConnector
          exact stated_of_compatibility rfl isValueState_true rfl
      · split at isConnector
        · split at isConnector
          · cases isConnector
          · obtain ⟨_, _, rfl⟩ := List.mem_map.mp isConnector
            exact stated_of_compatibility rfl isValueState_true rfl
        · cases isConnector

theorem readings_stated {source : MerchantSourceDefinition} (member : reading ∈ readings source) :
    reading.Stated := by
  rcases List.mem_append.mp member with ofProducts | ofPolicy
  · obtain ⟨product, _, ofProduct⟩ := List.mem_flatMap.mp ofProducts
    simp only [productReadings, List.cons_append, List.mem_cons, List.mem_append,
      Option.mem_toList, List.mem_flatMap] at ofProduct
    rcases ofProduct with rfl | (isCategory | ⟨variant, _, isVariant⟩) | isSemantic
    · exact stated_of_other (by rintro ⟨⟩) (by rintro _ _ ⟨⟩)
    · obtain ⟨_, _, rfl⟩ := Option.map_eq_some_iff.mp isCategory
      exact stated_of_other (by rintro ⟨⟩) (by rintro _ _ ⟨⟩)
    · exact variantReadings_stated isVariant
    · exact semanticReadings_stated isSemantic
  · have subject := (warrantyReadings_sound ofPolicy).2
    unfold warrantyReadings at ofPolicy
    split at ofPolicy
    · cases ofPolicy
    · split at ofPolicy
      · cases ofPolicy
      · split at ofPolicy
        · cases ofPolicy
        · cases List.mem_singleton.mp ofPolicy
          exact stated_of_other (by rintro ⟨⟩) (by rintro _ _ ⟨⟩)

end Stated

/-- A candidate stands for a reading of its source that was proposed and that fits. -/
structure StandsFor (candidate : CompilerCandidate) (reading : Reading) : Prop where
  proposed : reading.propose = .ok (candidate.proposal, candidate.state)
  target : candidate.target = reading.subject.target
  fits : reading.Fits

/-- A correction as a review accepts it. -/
structure CorrectionSound (source : MerchantSourceDefinition) (candidate : CompilerCandidate)
    (correction : CandidateProposal) : Prop where
  target : correction.target = candidate.target
  attributeKind : correction.attributeKind = candidate.proposal.fields.attributeKind
  unit : correction.unit = candidate.proposal.fields.unit
  typed : ∀ kind, correction.attributeKind = some kind → TypedAttribute correction kind
  fourState : correction.attributeKind = none →
    ".compatibility.".toList <:+: correction.target.toList →
      isValueState correction.fact.fields.value = true
  supported : ∀ reference ∈ correction.fact.fields.provenance, Supported source reference.fields

/-- A review of a candidate, as it is recorded. -/
structure ReviewSound (source : MerchantSourceDefinition) (candidate : CompilerCandidate)
    (decision : ReviewDecision) (correction : Option (Made CandidateProposal)) : Prop where
  required : candidate.state = .reviewRequired
  accepted : decision = .accept → candidate.proposal.fields.requiresCorrection = false
  corrected : decision = .correct →
    ∃ made, correction = some made ∧ CorrectionSound source candidate made.fields
  uncorrected : decision ≠ .correct → correction = none

/-! ## The checks of a review -/

variable {proposal : CandidateProposal}

section Checks

theorem typed_of_validateTargetValue (valid : validateTargetValue proposal = .ok ())
    {kind : AttributeKind} (isKind : proposal.attributeKind = some kind) :
    TypedAttribute proposal kind := by
  simp only [validateTargetValue, isKind] at valid
  obtain ⟨made, isMade, _⟩ := except_bind_eq_ok_iff.mp valid
  have sound := made.sound
  rw [fields_of_make (constructing_eq_ok_iff.mp isMade)] at sound
  simp only [Dataclass.refusal, firstRefusal_eq_none_iff, List.forall_mem_cons,
    List.not_mem_nil, false_imp_iff, implies_true, and_true] at sound
  obtain ⟨_, held, measured, unmeasured⟩ := sound
  refine ⟨isKind, by simpa using held, ?_, ?_⟩
  · rintro rfl
    cases isUnit : proposal.unit with
    | none => simp [isUnit] at measured
    | some unit => exact ⟨unit, rfl, by simpa [isUnit] using measured⟩
  · intro isOther
    simpa [isOther] using unmeasured

theorem fourState_of_validateTargetValue (valid : validateTargetValue proposal = .ok ())
    (noKind : proposal.attributeKind = none)
    (within : ".compatibility.".toList <:+: proposal.target.toList) :
    isValueState proposal.fact.fields.value = true := by
  simp only [validateTargetValue, noKind, within, decide_true, Bool.not_true,
    Bool.false_eq_true, if_false] at valid
  split at valid
  · cases valid
  · split at valid
    · next state => exact state
    · cases valid

/-- A step that refuses, or goes on. -/
theorem unless_eq_ok_iff {ε : Type} {condition : Prop} [Decidable condition] {failure : ε}
    {rest : Except ε Unit} :
    (do
      if condition then throw failure
      rest) = .ok () ↔ ¬ condition ∧ rest = .ok () := by
  by_cases holds : condition
  · simp only [holds, if_true, not_true_eq_false, false_and, iff_false]
    nofun
  · simp [holds]

variable [CharacterTables] {source : Made MerchantSourceDefinition}
  {candidate : CompilerCandidate} {decision : ReviewDecision}
  {correction : Option (Made CandidateProposal)} {payload : Except CompilerFailure Document}

theorem validateCorrection_sound (valid : validateCorrection candidate correction payload = .ok ())
    {document : Document} (isPayload : payload = .ok document)
    (isSource : parseSource document = .ok source) :
    ∃ made, correction = some made ∧ CorrectionSound source.fields candidate made.fields := by
  unfold validateCorrection at valid
  cases correction with
  | none => cases valid
  | some made =>
      refine ⟨made, rfl, ?_⟩
      obtain ⟨sameTarget, valid⟩ := unless_eq_ok_iff.mp valid
      obtain ⟨sameKind, valid⟩ := unless_eq_ok_iff.mp valid
      obtain ⟨_, valid⟩ := unless_eq_ok_iff.mp valid
      obtain ⟨_, typed, valid⟩ := except_bind_eq_ok_iff.mp valid
      obtain ⟨_, sameDocument, valid⟩ := except_bind_eq_ok_iff.mp valid
      cases isPayload.symm.trans sameDocument
      obtain ⟨parsed, isParsed, valid⟩ := except_bind_eq_ok_iff.mp valid
      cases isSource.symm.trans (constructing_eq_ok_iff.mp isParsed)
      obtain ⟨_, validated, _⟩ := except_bind_eq_ok_iff.mp valid
      simp only [ne_eq, not_not, not_or] at sameTarget sameKind
      rw [constructing_eq_ok_iff, validateCandidates, forM_eq_ok_iff, List.forall_mem_singleton,
        validateCandidate_eq_ok_iff] at validated
      exact ⟨sameTarget, sameKind.1, sameKind.2.1, fun kind => typed_of_validateTargetValue typed,
        fourState_of_validateTargetValue typed, validated.2⟩

/-- What passes the checks of a review is a sound review. -/
theorem validateReview_sound
    (valid : validateReview candidate decision correction payload = .ok ())
    {document : Document} (isPayload : payload = .ok document)
    (isSource : parseSource document = .ok source) :
    ReviewSound source.fields candidate decision correction := by
  unfold validateReview at valid
  split at valid
  · cases valid
  · next required =>
      split at valid
      · cases valid
      · next accepts =>
          have accepted : decision = .accept →
              candidate.proposal.fields.requiresCorrection = false := by
            intro isAccept
            simpa [isAccept] using accepts
          split at valid
          · next isCorrect =>
              exact ⟨not_not.mp required, accepted,
                fun _ => validateCorrection_sound valid isPayload isSource,
                fun isOther => absurd isCorrect isOther⟩
          · next isOther =>
              split at valid
              · cases valid
              · next noCorrection =>
                  exact ⟨not_not.mp required, accepted, fun isCorrect => absurd isCorrect isOther,
                    fun _ => by simpa using noCorrection⟩

end Checks

/-! ## What a candidate comes to -/

/-- The fact that a candidate comes to under its review. -/
inductive FactOf (candidate : CompilerCandidate) (review : Option CompilerReview)
    (fact : Made SemanticFact) : Prop
  /-- It was accepted without review. -/
  | automatic (accepted : candidate.state = .accepted) (unreviewed : review = none)
      (isFact : fact = candidate.proposal.fields.fact)
  /-- A review accepts it. -/
  | accepted (given : CompilerReview) (isReview : review = some given)
      (decision : given.decision = .accept)
      (isFact : fact.fields =
        { candidate.proposal.fields.fact.fields with
          confidence := .high
          reviewState := .confirmed })
  /-- A review states it instead. -/
  | corrected (given : CompilerReview) (isReview : review = some given)
      (decision : given.decision = .correct) (correction : Made CandidateProposal)
      (isCorrection : given.correction = some correction)
      (isFact : fact = correction.fields.fact)

/-- Nothing of a candidate may appear. -/
def Withheld (candidate : CompilerCandidate) (review : Option CompilerReview) : Prop :=
  candidate.state = .rejected ∨ (candidate.state = .reviewRequired ∧ review = none) ∨
    ∃ given, review = some given ∧ given.decision = .reject

section Outcomes

variable {source : MerchantSourceDefinition} {candidate : CompilerCandidate}
  {reading : Reading}

theorem Basis.state_cases (basis : Basis) :
    basis.state = .accepted ∨
      basis.state = .reviewRequired ∧ basis.authority = .derived := by
  cases basis with
  | authoritative | derived => exact Or.inl rfl
  | review => exact Or.inr ⟨rfl, rfl⟩

/-- A proposal of a reading is typed as the reading is. -/
theorem typedAttribute_of_typed (typed : reading.Typed)
    (value : proposal.fact.fields.value = reading.value)
    (attributeKind : proposal.attributeKind = reading.attributeKind)
    (unit : proposal.unit = reading.unit) {kind : AttributeKind}
    (isKind : reading.attributeKind = some kind) : TypedAttribute proposal kind where
  isKind := attributeKind.trans isKind
  held := by
    rw [value]
    exact typed.held kind isKind
  measured isMeasurement := by
    rw [unit]
    exact typed.measured (isMeasurement ▸ isKind)
  unmeasured isOther := by
    rw [unit]
    exact typed.unmeasured fun isMeasurement => isOther (by
      rw [isKind] at isMeasurement
      exact Option.some.inj isMeasurement)

theorem holds_of_reading (stated : reading.Stated) (typed : reading.Typed)
    (value : proposal.fact.fields.value = reading.value)
    (attributeKind : proposal.attributeKind = reading.attributeKind)
    (unit : proposal.unit = reading.unit) : reading.subject.Holds proposal := by
  cases isSubject : reading.subject with
  | product externalId field => trivial
  | policy name => trivial
  | variant sku field =>
      cases field with
      | price => trivial
      | availability =>
          have state := stated.availability sku isSubject
          rwa [← value] at state
      | feature key =>
          obtain ⟨hasKind, visible⟩ := stated.feature sku key isSubject
          obtain ⟨kind, isKind⟩ := Option.isSome_iff_exists.mp hasKind
          exact ⟨visible, kind, typedAttribute_of_typed typed value attributeKind unit isKind⟩
      | compatibility capability =>
          have state := (stated.compatibility sku capability isSubject).1
          rwa [← value] at state

theorem holds_of_correction {correction : CandidateProposal} (standsFor : StandsFor candidate reading)
    (stated : reading.Stated) (required : candidate.state = .reviewRequired)
    (sound : CorrectionSound source candidate correction) :
    reading.subject.Holds correction := by
  obtain ⟨proposed, isState⟩ := proposed_of_propose standsFor.proposed
  have isKind : correction.attributeKind = reading.attributeKind :=
    sound.attributeKind.trans proposed.attributeKind
  obtain ⟨sku, ⟨key, isFeature⟩ | ⟨capability, isCompatible⟩⟩ :=
    stated.reviewed (isState.symm.trans required)
  · obtain ⟨hasKind, visible⟩ := stated.feature sku key isFeature
    obtain ⟨kind, hasKind⟩ := Option.isSome_iff_exists.mp hasKind
    rw [isFeature]
    exact ⟨visible, kind, sound.typed kind (isKind.trans hasKind)⟩
  · have noKind := (stated.compatibility sku capability isCompatible).2
    rw [isCompatible]
    refine sound.fourState (isKind.trans noKind) ?_
    rw [sound.target, standsFor.target, isCompatible]
    have target : (Subject.variant sku (.compatibility capability)).target =
        "variant." ++ sku ++ "." ++ (compatibilitySegment ++ capability) := String.append_assoc
    have dotted : ".compatibility.".toList = ".".toList ++ compatibilitySegment.toList := by decide
    rw [target, dotted]
    simp only [String.toList_append, List.append_assoc]
    exact ⟨"variant.".toList ++ sku.toList, capability.toList, by simp⟩

/-- The proposal that a review accepts is made. -/
theorem exists_acceptedProposal {proposal : Made CandidateProposal}
    (derived : proposal.fields.fact.fields.authority = .derived) :
    ∃ made, acceptedProposal proposal.fields = .ok made ∧
      made.fields.fact.fields =
        { proposal.fields.fact.fields with
          confidence := .high
          reviewState := .confirmed } ∧
      made.fields.attributeKind = proposal.fields.attributeKind ∧
      made.fields.unit = proposal.fields.unit := by
  have cited : proposal.fields.fact.fields.provenance.isEmpty = false := by
    have sound := proposal.fields.fact.sound
    simp only [Dataclass.refusal, firstRefusal_eq_none_iff, List.forall_mem_cons] at sound
    exact sound.1
  let fact : SemanticFact :=
    { proposal.fields.fact.fields with
      confidence := .high
      reviewState := .confirmed }
  have factSound : Dataclass.refusal fact = none := by
    simp [fact, Dataclass.refusal, cited, derived]
  let fields : CandidateProposal :=
    { target := proposal.fields.target
      fact := { fields := fact, sound := factSound }
      attributeKind := proposal.fields.attributeKind
      unit := proposal.fields.unit }
  have sound : Dataclass.refusal fields = none := proposal.sound
  refine ⟨{ fields := fields, sound := sound }, ?_, rfl, rfl, rfl⟩
  exact except_bind_eq_ok_iff.mpr ⟨_, make_of_sound factSound, make_of_sound sound⟩

/-- What a candidate comes to. -/
structure ComesTo (source : MerchantSourceDefinition) (reading : Reading)
    (candidate : CompilerCandidate) (review : Option CompilerReview)
    (outcome : Option (Made CandidateProposal)) : Prop where
  holds : ∀ proposal, outcome = some proposal → reading.subject.Holds proposal.fields
  supported : ∀ proposal, outcome = some proposal →
    ∀ reference ∈ proposal.fields.fact.fields.provenance, Supported source reference.fields
  facts : ∀ fact, (∃ proposal, outcome = some proposal ∧ proposal.fields.fact = fact) ↔
    FactOf candidate review fact

theorem supported_of_reading (soundSource : SourceSound source) (plain : PlainIdentifiers source)
    (sound : reading.Sound source) (fits : reading.Fits)
    (provenance : proposal.fact.fields.provenance.map Made.fields =
      [{ field := reading.field.text, excerpt := reading.basis.excerpt }]) :
    ∀ reference ∈ proposal.fact.fields.provenance, Supported source reference.fields := by
  obtain ⟨text, declared, cites⟩ := sound.cited
  intro reference member
  have only : reference.fields ∈ proposal.fact.fields.provenance.map Made.fields :=
    List.mem_map_of_mem member
  rw [provenance, List.mem_singleton] at only
  rw [only]
  exact ⟨text, sourceFields_resolves soundSource plain declared, fun excerpt isExcerpt =>
    ⟨fits excerpt isExcerpt, cites.within excerpt isExcerpt⟩⟩

theorem notRejected_of_standsFor (standsFor : StandsFor candidate reading) :
    candidate.state ≠ .rejected := by
  rw [(proposed_of_propose standsFor.proposed).2]
  rcases reading.basis.state_cases with accepted | ⟨required, _⟩
  · rw [accepted]
    decide
  · rw [required]
    decide

theorem comesTo_unreviewed (soundSource : SourceSound source) (plain : PlainIdentifiers source)
    (sound : reading.Sound source) (stated : reading.Stated)
    (standsFor : StandsFor candidate reading) (accepted : candidate.state = .accepted) :
    effectiveProposal candidate none = .ok (some candidate.proposal) ∧
      ComesTo source reading candidate none (some candidate.proposal) := by
  have proposed := (proposed_of_propose standsFor.proposed).1
  refine ⟨by simp [effectiveProposal, accepted], ?_, ?_, ?_⟩
  · intro proposal isProposal
    cases isProposal
    exact holds_of_reading stated sound.typed proposed.value proposed.attributeKind proposed.unit
  · intro proposal isProposal
    cases isProposal
    exact supported_of_reading soundSource plain sound standsFor.fits proposed.provenance
  · intro fact
    constructor
    · intro ⟨proposal, isProposal, isFact⟩
      cases isProposal
      exact .automatic accepted rfl isFact.symm
    · intro isFact
      cases isFact with
      | automatic _ _ isFact => exact ⟨_, rfl, isFact.symm⟩
      | accepted given isReview => cases isReview
      | corrected given isReview => cases isReview

variable {given : CompilerReview}

theorem comesTo_rejected (decision : given.decision = .reject) :
    effectiveProposal candidate (some given) = .ok none ∧
      ComesTo source reading candidate (some given) none := by
  refine ⟨by simp [effectiveProposal, decision], ?_, ?_, ?_⟩
  · intro proposal isProposal
    cases isProposal
  · intro proposal isProposal
    cases isProposal
  · intro fact
    constructor
    · intro ⟨proposal, isProposal, _⟩
      cases isProposal
    · intro isFact
      cases isFact with
      | automatic _ unreviewed => cases unreviewed
      | accepted other isReview isAccept =>
          cases isReview
          cases decision.symm.trans isAccept
      | corrected other isReview isCorrect =>
          cases isReview
          cases decision.symm.trans isCorrect

theorem comesTo_accepted (soundSource : SourceSound source) (plain : PlainIdentifiers source)
    (sound : reading.Sound source) (stated : reading.Stated)
    (standsFor : StandsFor candidate reading)
    (isSound : ReviewSound source candidate given.decision given.correction)
    (decision : given.decision = .accept) :
    ∃ made, effectiveProposal candidate (some given) = .ok (some made) ∧
      ComesTo source reading candidate (some given) (some made) := by
  obtain ⟨proposed, isState⟩ := proposed_of_propose standsFor.proposed
  have notRejected := notRejected_of_standsFor standsFor
  have noCorrection : given.correction = none := by
    refine isSound.uncorrected ?_
    rw [decision]
    decide
  have derived : candidate.proposal.fields.fact.fields.authority = .derived := by
    rw [proposed.authority]
    rcases reading.basis.state_cases with accepted | ⟨_, authority⟩
    · have required := isState.symm.trans isSound.required
      rw [accepted] at required
      cases required
    · exact authority
  obtain ⟨made, isMade, isFact, isKind, isUnit⟩ := exists_acceptedProposal derived
  refine ⟨made, ?_, ?_, ?_, ?_⟩
  · simp [effectiveProposal, notRejected, decision, noCorrection, isMade]
  · intro proposal isProposal
    cases isProposal
    refine holds_of_reading stated sound.typed ?_ (isKind.trans proposed.attributeKind)
      (isUnit.trans proposed.unit)
    rw [isFact]
    exact proposed.value
  · intro proposal isProposal
    cases isProposal
    rw [isFact]
    exact supported_of_reading soundSource plain sound standsFor.fits proposed.provenance
  · intro fact
    constructor
    · intro ⟨proposal, isProposal, same⟩
      cases isProposal
      exact .accepted given rfl decision (by rw [← same, isFact])
    · intro isOutcome
      cases isOutcome with
      | automatic _ unreviewed => cases unreviewed
      | accepted other isReview _ same => exact ⟨made, rfl, Made.ext (isFact.trans same.symm)⟩
      | corrected other isReview isCorrect =>
          cases isReview
          cases decision.symm.trans isCorrect

theorem comesTo_corrected (stated : reading.Stated) (standsFor : StandsFor candidate reading)
    (isSound : ReviewSound source candidate given.decision given.correction)
    (decision : given.decision = .correct) :
    ∃ made, effectiveProposal candidate (some given) = .ok (some made) ∧
      ComesTo source reading candidate (some given) (some made) := by
  obtain ⟨made, isCorrection, correct⟩ := isSound.corrected decision
  refine ⟨made, ?_, ?_, ?_, ?_⟩
  · simp [effectiveProposal, notRejected_of_standsFor standsFor, decision, isCorrection]
  · intro proposal isProposal
    cases isProposal
    exact holds_of_correction standsFor stated isSound.required correct
  · intro proposal isProposal
    cases isProposal
    exact correct.supported
  · intro fact
    constructor
    · intro ⟨proposal, isProposal, same⟩
      cases isProposal
      exact .corrected given rfl decision made isCorrection same.symm
    · intro isOutcome
      cases isOutcome with
      | automatic _ unreviewed => cases unreviewed
      | accepted other isReview isAccept =>
          cases isReview
          cases decision.symm.trans isAccept
      | corrected other isReview _ correction isOther same =>
          cases isReview
          cases isCorrection.symm.trans isOther
          exact ⟨made, rfl, same.symm⟩

/-- Under a sound review, and with one where one is required, a candidate comes to what the
review says. -/
theorem exists_comesTo (soundSource : SourceSound source) (plain : PlainIdentifiers source)
    (sound : reading.Sound source) (stated : reading.Stated)
    (standsFor : StandsFor candidate reading) {review : Option CompilerReview}
    (reviewed : ∀ given, review = some given →
      ReviewSound source candidate given.decision given.correction)
    (resolved : candidate.state = .reviewRequired → review.isSome = true) :
    ∃ outcome, effectiveProposal candidate review = .ok outcome ∧
      ComesTo source reading candidate review outcome := by
  cases review with
  | none =>
      have accepted : candidate.state = .accepted := by
        cases state : candidate.state with
        | accepted => rfl
        | reviewRequired => exact absurd (resolved state) (by decide)
        | rejected => exact absurd state (notRejected_of_standsFor standsFor)
      exact ⟨_, comesTo_unreviewed soundSource plain sound stated standsFor accepted⟩
  | some given =>
      have isSound := reviewed given rfl
      cases decision : given.decision with
      | reject => exact ⟨none, comesTo_rejected decision⟩
      | accept =>
          obtain ⟨made, outcome⟩ :=
            comesTo_accepted soundSource plain sound stated standsFor isSound decision
          exact ⟨some made, outcome⟩
      | correct =>
          obtain ⟨made, outcome⟩ := comesTo_corrected stated standsFor isSound decision
          exact ⟨some made, outcome⟩

end Outcomes

/-- When every candidate comes to something, the effective proposals hold what each one came
to, at its target. -/
theorem exists_effective {candidates : List CompilerCandidate}
    {reviews : Uuid → Option CompilerReview}
    (distinct : (candidates.map CompilerCandidate.target).Nodup)
    (settled : ∀ candidate ∈ candidates, ∃ outcome,
      effectiveProposal candidate (reviews candidate.id) = .ok outcome) :
    ∃ proposals, effective candidates reviews = .ok proposals ∧
      ∀ target proposal, proposals.get? target = some proposal ↔
        ∃ candidate ∈ candidates, candidate.target = target ∧
          effectiveProposal candidate (reviews candidate.id) = .ok (some proposal) := by
  let entry := fun candidate : CompilerCandidate => do
    let proposal ← effectiveProposal candidate (reviews candidate.id)
    return proposal.map fun proposal => (candidate.target, proposal)
  have entryOk : ∀ candidate target proposal, entry candidate = .ok (some (target, proposal)) ↔
      candidate.target = target ∧
        effectiveProposal candidate (reviews candidate.id) = .ok (some proposal) := by
    intro candidate target proposal
    simp only [entry]
    rw [except_bind_eq_ok_iff]
    constructor
    · rintro ⟨outcome, isOutcome, isEntry⟩
      cases outcome with
      | none => cases isEntry
      | some other =>
          cases isEntry
          exact ⟨rfl, isOutcome⟩
    · rintro ⟨rfl, isOutcome⟩
      exact ⟨_, isOutcome, rfl⟩
  obtain ⟨entries, entriesOk⟩ : ∃ entries, candidates.mapM entry = .ok entries := by
    refine exists_mapM_eq_ok_iff.mpr fun candidate member => ?_
    obtain ⟨outcome, isOutcome⟩ := settled candidate member
    exact ⟨_, except_bind_eq_ok_iff.mpr ⟨outcome, isOutcome, rfl⟩⟩
  have related := mapM_eq_ok_iff.mp entriesOk
  have keys : ((entries.filterMap id).map Prod.fst).Nodup := by
    refine distinct.sublist ?_
    clear distinct settled entriesOk
    induction related with
    | nil => exact .slnil
    | @cons candidate held rest others isEntry _ ih =>
        cases held with
        | none => exact ih.cons _
        | some pair =>
            have sameTarget := ((entryOk _ pair.1 pair.2).mp isEntry).1
            simp only [List.filterMap_cons, id, List.map_cons, sameTarget]
            exact ih.cons_cons _
  refine ⟨.ofEntries (entries.filterMap id),
    except_bind_eq_ok_iff.mpr ⟨entries, entriesOk, rfl⟩, ?_⟩
  intro target proposal
  rw [Mapping.get?_ofEntries keys, Mapping.lookup_eq_some_iff keys, List.mem_filterMap]
  constructor
  · rintro ⟨held, heldMem, isHeld⟩
    obtain ⟨candidate, candidateMem, isEntry⟩ := exists_left_of_forall₂ related heldMem
    rw [id_eq] at isHeld
    rw [isHeld, entryOk] at isEntry
    exact ⟨candidate, candidateMem, isEntry⟩
  · rintro ⟨candidate, candidateMem, isTarget, isOutcome⟩
    obtain ⟨held, heldMem, isEntry⟩ := exists_right_of_forall₂ related candidateMem
    have sameEntry := isEntry.symm.trans ((entryOk _ _ _).mpr ⟨isTarget, isOutcome⟩)
    exact ⟨held, heldMem, by injection sameEntry⟩

/-! ## The candidates of a run, all reviewed -/

section Resolved

variable [CharacterTables] {source : MerchantSourceDefinition}
  {candidates : List CompilerCandidate} {reviews : Uuid → Option CompilerReview}

/-- The candidates of a completed run: one for each reading of its source. -/
structure StandFor (source : MerchantSourceDefinition) (candidates : List CompilerCandidate) :
    Prop where
  distinct : (candidates.map CompilerCandidate.target).Nodup
  readings : ∀ candidate ∈ candidates, ∃ reading ∈ readings source, StandsFor candidate reading
  candidates : ∀ reading ∈ Compiler.readings source, ∃ candidate ∈ candidates,
    StandsFor candidate reading

/-- Every review is sound, and every one that is required is present. -/
structure Resolved (source : MerchantSourceDefinition) (candidates : List CompilerCandidate)
    (reviews : Uuid → Option CompilerReview) : Prop where
  sound : ∀ candidate ∈ candidates, ∀ given, reviews candidate.id = some given →
    ReviewSound source candidate given.decision given.correction
  present : ∀ candidate ∈ candidates, candidate.state = .reviewRequired →
    (reviews candidate.id).isSome = true

theorem comesTo_of_resolved (soundSource : SourceSound source) (plain : PlainIdentifiers source)
    (resolved : Resolved source candidates reviews) {candidate : CompilerCandidate}
    (member : candidate ∈ candidates) (readingMem : reading ∈ readings source)
    (standsFor : StandsFor candidate reading) :
    ∃ outcome, effectiveProposal candidate (reviews candidate.id) = .ok outcome ∧
      ComesTo source reading candidate (reviews candidate.id) outcome :=
  exists_comesTo soundSource plain (readings_sound readingMem) (readings_stated readingMem)
    standsFor (resolved.sound candidate member) (resolved.present candidate member)

/-- What needs no review stands as it was proposed. -/
theorem get?_of_authoritative (standFor : StandFor source candidates)
    (resolved : Resolved source candidates reviews) {proposals : Effective}
    (holds : ∀ target proposal, proposals.get? target = some proposal ↔
      ∃ candidate ∈ candidates, candidate.target = target ∧
        effectiveProposal candidate (reviews candidate.id) = .ok (some proposal))
    (readingMem : reading ∈ readings source) (copied : reading.basis.state = .accepted) :
    ∃ proposal, proposals.get? reading.subject.target = some proposal ∧
      proposal.fields.fact.fields.value = reading.value := by
  obtain ⟨candidate, member, standsFor⟩ := standFor.candidates reading readingMem
  obtain ⟨proposed, isState⟩ := proposed_of_propose standsFor.proposed
  have accepted : candidate.state = .accepted := isState.trans copied
  have unreviewed : reviews candidate.id = none := by
    cases isReview : reviews candidate.id with
    | none => rfl
    | some given =>
        have required := (resolved.sound candidate member given isReview).required
        cases accepted.symm.trans required
  refine ⟨candidate.proposal, (holds _ _).mpr ⟨candidate, member, standsFor.target, ?_⟩,
    proposed.value⟩
  rw [unreviewed]
  simp [effectiveProposal, accepted]

theorem titleReading_mem {product : Made SourceProduct} (member : product ∈ source.products) :
    titleReading product.fields ∈ readings source := by
  refine List.mem_append_left _ (List.mem_flatMap.mpr ⟨product, member, ?_⟩)
  simp [productReadings]

theorem variantReadings_mem {product : Made SourceProduct} (member : product ∈ source.products)
    {variant : Made SourceVariant} (variantMem : variant ∈ product.fields.variants)
    (ofVariant : reading ∈ variantReadings product.fields.externalId variant.fields) :
    reading ∈ readings source := by
  refine List.mem_append_left _ (List.mem_flatMap.mpr ⟨product, member, ?_⟩)
  simp only [productReadings, List.cons_append, List.mem_cons, List.mem_append, List.mem_flatMap]
  exact Or.inr (Or.inl (Or.inr ⟨variant, variantMem, ofVariant⟩))

/-- Candidates that are all reviewed leave complete proposals. -/
theorem exists_complete (soundSource : SourceSound source) (plain : PlainIdentifiers source)
    (standFor : StandFor source candidates) (resolved : Resolved source candidates reviews) :
    ∃ proposals, effective candidates reviews = .ok proposals ∧ Complete source proposals ∧
      ∀ target proposal, proposals.get? target = some proposal ↔
        ∃ candidate ∈ candidates, candidate.target = target ∧
          effectiveProposal candidate (reviews candidate.id) = .ok (some proposal) := by
  obtain ⟨proposals, isEffective, holds⟩ := @exists_effective candidates reviews standFor.distinct
    fun candidate member => by
      obtain ⟨reading, readingMem, standsFor⟩ := standFor.readings candidate member
      obtain ⟨outcome, isOutcome, _⟩ :=
        comesTo_of_resolved soundSource plain resolved member readingMem standsFor
      exact ⟨outcome, isOutcome⟩
  have present : ∀ reading ∈ readings source, reading.basis.state = .accepted →
      (proposals.get? reading.subject.target).isSome = true := by
    intro reading readingMem copied
    obtain ⟨proposal, found, _⟩ := get?_of_authoritative standFor resolved holds readingMem copied
    rw [found]
    rfl
  refine ⟨proposals, isEffective, ⟨?_, ?_, ?_, ?_⟩, holds⟩
  · intro target proposal found
    obtain ⟨candidate, member, isTarget, isOutcome⟩ := (holds _ _).mp found
    obtain ⟨reading, readingMem, standsFor⟩ := standFor.readings candidate member
    obtain ⟨outcome, sameOutcome, comesTo⟩ :=
      comesTo_of_resolved soundSource plain resolved member readingMem standsFor
    cases isOutcome.symm.trans sameOutcome
    exact ⟨reading.subject, (readings_sound readingMem).subject,
      standsFor.target.symm.trans isTarget, comesTo.holds proposal rfl⟩
  · intro externalId idMem
    obtain ⟨product, member, rfl⟩ := List.mem_map.mp idMem
    exact present _ (titleReading_mem member) rfl
  · intro sku skuMem
    obtain ⟨variant, variantMem, rfl⟩ := List.mem_map.mp skuMem
    obtain ⟨product, member, ofProduct⟩ := mem_variants_iff.mp variantMem
    exact present _ (variantReadings_mem member ofProduct List.mem_cons_self) rfl
  · intro sku skuMem
    obtain ⟨variant, variantMem, rfl⟩ := List.mem_map.mp skuMem
    obtain ⟨product, member, ofProduct⟩ := mem_variants_iff.mp variantMem
    exact present _ (variantReadings_mem member ofProduct
      (List.mem_cons_of_mem _ List.mem_cons_self)) rfl

end Resolved

end AgentRank.Compiler
