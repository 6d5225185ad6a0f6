import AgentRank.Compiler.Reviewed

/-!
# Faithful representations

A representation of a source is faithful to the candidates of a run and to their reviews when
it shows the products of the source, and about them what the candidates come to.  What is
assembled from candidates that are all reviewed is faithful, and can always be assembled.
-/

namespace AgentRank.Compiler

open Constraints Relational Representation Store Text

/-- A variant as its source states it. -/
structure VariantStated (variant : SourceVariant) (shown : CommerceVariant) : Prop where
  sku : shown.sku = variant.sku
  label : shown.label = variant.label
  price : shown.price.fields.value = .price variant.priceAmountMinor variant.currency
  availability : shown.availability.fields.value =
    .text (availabilityState variant.availability).value

/-- A product as its source states it, with its variants in the order of the source. -/
structure ProductStated (product : SourceProduct) (shown : CommerceProduct) : Prop where
  externalId : shown.externalId = product.externalId
  title : shown.title.fields.value = .text product.title
  variants : List.Forall₂ (fun variant other => VariantStated variant.fields other.fields)
    product.variants shown.variants

/-- A representation that is faithful to the reviews of some candidates. -/
structure Faithful (source : MerchantSourceDefinition) (candidates : List CompilerCandidate)
    (reviews : Uuid → Option CompilerReview) (definition : CommerceIRDefinition) : Prop where
  sourceKey : definition.sourceKey = source.key
  sourceVersion : definition.sourceVersion = source.version
  products : List.Forall₂ (fun product shown => ProductStated product.fields shown.fields)
    source.products definition.products
  facts : ∀ subject fact, Shows definition fact subject ↔
    subject.IsOf source ∧ ∃ candidate ∈ candidates, candidate.target = subject.target ∧
      FactOf candidate (reviews candidate.id) fact
  withheld : ∀ candidate ∈ candidates, Withheld candidate (reviews candidate.id) →
    ∀ subject fact, subject.target = candidate.target → ¬ Shows definition fact subject
  supported : ∀ subject fact, Shows definition fact subject →
    ∀ reference ∈ fact.fields.provenance, Supported source reference.fields

/-- Nothing is a fact of a candidate that is withheld. -/
theorem not_factOf_of_withheld {candidate : CompilerCandidate} {reading : Reading}
    {review : Option CompilerReview} (standsFor : StandsFor candidate reading)
    (withheld : Withheld candidate review) {fact : Made SemanticFact} :
    ¬ FactOf candidate review fact := by
  intro isFact
  rcases withheld with rejected | ⟨required, unreviewed⟩ | ⟨given, isReview, isReject⟩
  · exact notRejected_of_standsFor standsFor rejected
  · cases isFact with
    | automatic accepted => cases accepted.symm.trans required
    | accepted other isOther => cases unreviewed.symm.trans isOther
    | corrected other isOther => cases unreviewed.symm.trans isOther
  · cases isFact with
    | automatic _ unreviewed => cases unreviewed.symm.trans isReview
    | accepted other isOther isAccept =>
        cases isReview.symm.trans isOther
        cases isReject.symm.trans isAccept
    | corrected other isOther isCorrect =>
        cases isReview.symm.trans isOther
        cases isReject.symm.trans isCorrect

section Faithful

variable [CharacterTables] {source : MerchantSourceDefinition}
  {candidates : List CompilerCandidate} {reviews : Uuid → Option CompilerReview}

section Stated

variable {proposals : Effective}
  (standFor : StandFor source candidates) (resolved : Resolved source candidates reviews)
  (holds : ∀ target proposal, proposals.get? target = some proposal ↔
    ∃ candidate ∈ candidates, candidate.target = target ∧
      effectiveProposal candidate (reviews candidate.id) = .ok (some proposal))

include standFor resolved holds

/-- What is shown where nothing needs a review is what the source states. -/
theorem value_of_authoritative {reading : Reading} (readingMem : reading ∈ readings source)
    (copied : reading.basis.state = .accepted) {fact : Made SemanticFact}
    (shown : (proposals.get? reading.subject.target).map
      (fun proposal => proposal.fields.fact) = some fact) :
    fact.fields.value = reading.value := by
  obtain ⟨proposal, found, value⟩ :=
    get?_of_authoritative standFor resolved holds readingMem copied
  rw [found] at shown
  cases shown
  exact value

theorem variantStated {product : Made SourceProduct} (member : product ∈ source.products)
    {variant : Made SourceVariant} (variantMem : variant ∈ product.fields.variants)
    {shown : CommerceVariant} (isShown : VariantShown proposals variant.fields shown) :
    VariantStated variant.fields shown where
  sku := isShown.sku
  label := isShown.label
  price :=
    @value_of_authoritative _ _ _ _ _ standFor resolved holds
      (priceReading product.fields.externalId variant.fields)
      (variantReadings_mem member variantMem List.mem_cons_self) rfl _ isShown.price
  availability :=
    @value_of_authoritative _ _ _ _ _ standFor resolved holds
      (availabilityReading product.fields.externalId variant.fields)
      (variantReadings_mem member variantMem (List.mem_cons_of_mem _ List.mem_cons_self)) rfl _
      isShown.availability

theorem productStated {product : Made SourceProduct} (member : product ∈ source.products)
    {shown : CommerceProduct} {isFirst : Bool}
    (isShown : ProductShown proposals isFirst product.fields shown) :
    ProductStated product.fields shown where
  externalId := isShown.externalId
  title :=
    @value_of_authoritative _ _ _ _ _ standFor resolved holds (titleReading product.fields)
      (titleReading_mem member) rfl _ isShown.title
  variants := by
    have related := (List.forall₂_and_left product.fields.variants shown.variants).mpr
      ⟨fun _ variantMem => variantMem, isShown.variants⟩
    exact related.imp fun variant other ⟨variantMem, variantShown⟩ =>
      variantStated standFor resolved holds member variantMem variantShown

end Stated

/-- What is assembled from candidates that are all reviewed is faithful. -/
theorem faithful_of_representationOf (soundSource : SourceSound source)
    (plain : PlainIdentifiers source) (standFor : StandFor source candidates)
    (resolved : Resolved source candidates reviews) {sourceHash configurationDigest : ContentHash}
    {definition : Made CommerceIRDefinition}
    (isOk : representationOf source sourceHash configurationDigest candidates reviews =
      .ok definition) :
    Faithful source candidates reviews definition.fields := by
  obtain ⟨proposals, isEffective, complete, holds⟩ :=
    exists_complete soundSource plain standFor resolved
  obtain ⟨_, sameProposals, assembled⟩ := except_bind_eq_ok_iff.mp isOk
  rw [constructing_eq_ok_iff] at sameProposals
  cases isEffective.symm.trans sameProposals
  have isShown := (definitionShown_of_assemble assembled).1
  have comesTo : ∀ candidate ∈ candidates, ∃ reading outcome,
      StandsFor candidate reading ∧
        effectiveProposal candidate (reviews candidate.id) = .ok outcome ∧
          ComesTo source reading candidate (reviews candidate.id) outcome := by
    intro candidate member
    obtain ⟨reading, readingMem, standsFor⟩ := standFor.readings candidate member
    obtain ⟨outcome, isOutcome, comesTo⟩ :=
      comesTo_of_resolved soundSource plain resolved member readingMem standsFor
    exact ⟨reading, outcome, standsFor, isOutcome, comesTo⟩
  have facts : ∀ subject fact, Shows definition.fields fact subject ↔
      subject.IsOf source ∧ ∃ candidate ∈ candidates, candidate.target = subject.target ∧
        FactOf candidate (reviews candidate.id) fact := by
    intro subject fact
    rw [shows_iff isShown soundSource complete plain]
    apply and_congr_right
    intro _
    constructor
    · rintro ⟨proposal, found, isFact⟩
      obtain ⟨candidate, member, isTarget, isOutcome⟩ := (holds _ _).mp found
      obtain ⟨reading, outcome, _, sameOutcome, comes⟩ := comesTo candidate member
      cases isOutcome.symm.trans sameOutcome
      exact ⟨candidate, member, isTarget, (comes.facts fact).mp ⟨proposal, rfl, isFact⟩⟩
    · rintro ⟨candidate, member, isTarget, isFact⟩
      obtain ⟨reading, outcome, _, isOutcome, comes⟩ := comesTo candidate member
      obtain ⟨proposal, rfl, sameFact⟩ := (comes.facts fact).mpr isFact
      exact ⟨proposal, (holds _ _).mpr ⟨candidate, member, isTarget, isOutcome⟩, sameFact⟩
  refine ⟨isShown.sourceKey, isShown.sourceVersion, ?_, facts, ?_, ?_⟩
  · have related := (List.forall₂_and_left source.products definition.fields.products).mpr
        ⟨fun _ member => member, isShown.products.forall₂⟩
    exact related.imp fun product shown ⟨member, _, productShown⟩ =>
      productStated standFor resolved holds member productShown
  · intro candidate member withheld subject fact isTarget shown
    obtain ⟨_, other, otherMem, otherTarget, isFact⟩ := (facts subject fact).mp shown
    have same := List.inj_on_of_nodup_map standFor.distinct otherMem member
      (otherTarget.trans isTarget)
    rw [same] at isFact
    obtain ⟨reading, _, standsFor⟩ := standFor.readings candidate member
    exact not_factOf_of_withheld standsFor withheld isFact
  · intro subject fact shown
    obtain ⟨_, candidate, member, _, isFact⟩ := (facts subject fact).mp shown
    obtain ⟨reading, outcome, _, _, comes⟩ := comesTo candidate member
    obtain ⟨proposal, isOutcome, sameFact⟩ := (comes.facts fact).mpr isFact
    rw [← sameFact]
    exact comes.supported proposal isOutcome

/-- Candidates that are all reviewed leave a representation. -/
theorem exists_representationOf (soundSource : SourceSound source)
    (plain : PlainIdentifiers source) (standFor : StandFor source candidates)
    (resolved : Resolved source candidates reviews) (sourceHash configurationDigest : ContentHash) :
    ∃ definition, representationOf source sourceHash configurationDigest candidates reviews =
      .ok definition := by
  obtain ⟨proposals, isEffective, complete, _⟩ :=
    exists_complete soundSource plain standFor resolved
  obtain ⟨definition, assembled⟩ :=
    exists_assemble soundSource complete plain sourceHash configurationDigest
  exact ⟨definition, except_bind_eq_ok_iff.mpr
    ⟨proposals, constructing_eq_ok_iff.mpr isEffective, assembled⟩⟩

end Faithful

end AgentRank.Compiler
