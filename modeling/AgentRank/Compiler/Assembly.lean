import AgentRank.Compiler.Completion

/-!
# Assembling a representation

This module models `_ir` of `compiler/service.py`: the proposals that the reviews left, by
their targets, and the representation that is put together from them in the order of the
source document.
-/

namespace AgentRank.Compiler

open Constraints Relational Representation Store Text

inductive ReviewDecision
  | accept
  | correct
  | reject
deriving DecidableEq

structure CompilerCandidate where
  id : Uuid
  merchantId : Uuid
  runId : Uuid
  target : String
  proposal : Made CandidateProposal
  state : CandidateState
deriving DecidableEq

structure CompilerReview where
  id : Uuid
  merchantId : Uuid
  runId : Uuid
  candidateId : Uuid
  decision : ReviewDecision
  correction : Option (Made CandidateProposal)
  reviewer : String
deriving DecidableEq

/-- What a call of the compiler service raises. -/
inductive CompilerFailure
  | service (failure : Failure)
  | keyError (key : String)
  | typeError (message : String)
  | runtimeError (message : String)
deriving DecidableEq

/-- A constructor that may refuse its fields. -/
def constructing {α : Type} (made : Except ValueError α) : Except CompilerFailure α :=
  match made with
  | .ok value => .ok value
  | .error error => .error (.service (.valueError error))

/-- A proposal that a review accepts. -/
def acceptedProposal (proposal : CandidateProposal) :
    Except ValueError (Made CandidateProposal) := do
  let fact ← make
    { value := proposal.fact.fields.value
      authority := proposal.fact.fields.authority
      confidence := .high
      reviewState := .confirmed
      provenance := proposal.fact.fields.provenance : SemanticFact }
  make
    { target := proposal.target
      fact := fact
      attributeKind := proposal.attributeKind
      unit := proposal.unit }

/-- What a candidate comes to under its review. -/
def effectiveProposal (candidate : CompilerCandidate) (review : Option CompilerReview) :
    Except ValueError (Option (Made CandidateProposal)) :=
  if candidate.state = .rejected ∨ review.any (fun given => given.decision = .reject) then
    .ok none
  else
    let proposal := (review.bind CompilerReview.correction).getD candidate.proposal
    if review.any fun given => given.decision = .accept then
      some <$> acceptedProposal proposal.fields
    else .ok (some proposal)

/-- The effective proposals, by their targets. -/
def effective (candidates : List CompilerCandidate) (reviews : Uuid → Option CompilerReview) :
    Except ValueError (Mapping (Made CandidateProposal)) := do
  let settled ← candidates.mapM fun candidate => do
    let proposal ← effectiveProposal candidate (reviews candidate.id)
    return proposal.map fun proposal => (candidate.target, proposal)
  return .ofEntries (settled.filterMap id)

abbrev Effective := Mapping (Made CandidateProposal)

/-- `effective[target].fact`. -/
def factAt (proposals : Effective) (target : String) : Except CompilerFailure (Made SemanticFact) :=
  match proposals.get? target with
  | some proposal => .ok proposal.fields.fact
  | none => .error (.keyError target)

/-- The proposals for the attributes of a variant. -/
def attributeFields (proposals : Effective) (sku : String) : List CommerceAttribute :=
  proposals.entries.filterMap fun entry =>
    match afterOpening? (variantAttributePrefix sku) entry.1, entry.2.fields.attributeKind with
    | some key, some kind =>
        some { key := key, kind := kind, fact := entry.2.fields.fact, unit := entry.2.fields.unit }
    | _, _ => none

/-- The facts under the targets that begin alike, by what follows. -/
def factsUnder (proposals : Effective) (opening : String) : Mapping (Made SemanticFact) :=
  .ofEntries (proposals.entries.filterMap fun entry =>
    (afterOpening? opening entry.1).map fun rest => (rest, entry.2.fields.fact))

def assembleVariant (proposals : Effective) (variant : SourceVariant) :
    Except CompilerFailure (Made CommerceVariant) := do
  let attributes ← constructing ((attributeFields proposals variant.sku).mapM make)
  let price ← factAt proposals (variantPriceTarget variant.sku)
  let availability ← factAt proposals (variantAvailabilityTarget variant.sku)
  constructing (make
    { sku := variant.sku
      label := variant.label
      price := price
      availability := availability
      attributes := attributes
      compatibility := factsUnder proposals (variantCompatibilityPrefix variant.sku) })

/-- The policy facts stand at the first product. -/
def assembleProduct (proposals : Effective) (isFirst : Bool) (product : SourceProduct) :
    Except CompilerFailure (Made CommerceProduct) := do
  let variants ← product.variants.mapM fun variant => assembleVariant proposals variant.fields
  let title ← factAt proposals (productTitleTarget product.externalId)
  let category := (proposals.get? (productCategoryTarget product.externalId)).map fun proposal =>
    proposal.fields.fact
  constructing (make
    { externalId := product.externalId
      title := title
      category := category
      variants := variants
      policyFacts := if isFirst then factsUnder proposals policyPrefix else .empty })

/-- The products of a representation, the first one marked. -/
def assembleProducts (proposals : Effective) :
    List (Made SourceProduct) → Except CompilerFailure (List (Made CommerceProduct))
  | [] => .ok []
  | first :: rest => do
      let shown ← assembleProduct proposals true first.fields
      let others ← rest.mapM fun product => assembleProduct proposals false product.fields
      return shown :: others

/-- `_ir`, of the effective proposals. -/
def assemble (source : MerchantSourceDefinition) (sourceHash : ContentHash)
    (configurationDigest : ContentHash) (proposals : Effective) :
    Except CompilerFailure (Made CommerceIRDefinition) := do
  let products ← assembleProducts proposals source.products
  constructing (make
    { sourceKey := source.key
      sourceVersion := source.version
      sourceHash := sourceHash
      producer := .compiler
      producerVersion := configurationDigest.text
      products := products })

/-- `_ir`. -/
def representationOf (source : MerchantSourceDefinition) (sourceHash : ContentHash)
    (configurationDigest : ContentHash) (candidates : List CompilerCandidate)
    (reviews : Uuid → Option CompilerReview) :
    Except CompilerFailure (Made CommerceIRDefinition) := do
  let proposals ← constructing (effective candidates reviews)
  assemble source sourceHash configurationDigest proposals

/-- The variants of every product of a representation. -/
def shownVariants (definition : CommerceIRDefinition) : List (Made CommerceVariant) :=
  definition.products.flatMap fun product => product.fields.variants

/-- A representation shows a fact about a subject. -/
def Shows (definition : CommerceIRDefinition) (fact : Made SemanticFact) : Subject → Prop
  | .product externalId .title =>
      ∃ product ∈ definition.products, product.fields.externalId = externalId ∧
        product.fields.title = fact
  | .product externalId .category =>
      ∃ product ∈ definition.products, product.fields.externalId = externalId ∧
        product.fields.category = some fact
  | .variant sku .price =>
      ∃ variant ∈ shownVariants definition, variant.fields.sku = sku ∧ variant.fields.price = fact
  | .variant sku .availability =>
      ∃ variant ∈ shownVariants definition, variant.fields.sku = sku ∧
        variant.fields.availability = fact
  | .variant sku (.feature key) =>
      ∃ variant ∈ shownVariants definition, variant.fields.sku = sku ∧
        ∃ stated ∈ variant.fields.attributes, stated.fields.key = key ∧ stated.fields.fact = fact
  | .variant sku (.compatibility capability) =>
      ∃ variant ∈ shownVariants definition, variant.fields.sku = sku ∧
        variant.fields.compatibility.get? capability = some fact
  | .policy name =>
      ∃ product ∈ definition.products, product.fields.policyFacts.get? name = some fact

/-- The kind, the value and the unit of a proposal agree, as those of an attribute do. -/
structure TypedAttribute (proposal : CandidateProposal) (kind : AttributeKind) : Prop where
  isKind : proposal.attributeKind = some kind
  held : kind.holds proposal.fact.fields.value = true
  measured : kind = .measurement → ∃ unit, proposal.unit = some unit ∧ isBlank unit = false
  unmeasured : kind ≠ .measurement → proposal.unit = none

/-- A proposal can be shown at its subject. -/
def Subject.Holds (proposal : CandidateProposal) : Subject → Prop
  | .variant _ (.feature key) => isBlank key = false ∧ ∃ kind, TypedAttribute proposal kind
  | .variant _ .availability | .variant _ (.compatibility _) =>
      isValueState proposal.fact.fields.value = true
  | _ => True

/-- Proposals from which a representation of a source can be assembled. -/
structure Complete (source : MerchantSourceDefinition) (proposals : Effective) : Prop where
  subjects : ∀ target proposal, proposals.get? target = some proposal →
    ∃ subject : Subject, subject.IsOf source ∧ subject.target = target ∧
      subject.Holds proposal.fields
  titles : ∀ externalId ∈ source.externalIds,
    (proposals.get? (productTitleTarget externalId)).isSome = true
  prices : ∀ sku ∈ source.skus, (proposals.get? (variantPriceTarget sku)).isSome = true
  availabilities : ∀ sku ∈ source.skus,
    (proposals.get? (variantAvailabilityTarget sku)).isSome = true

section Openings

variable {proposals : Effective}

theorem afterOpening?_append (opening rest : String) :
    afterOpening? opening (opening ++ rest) = some rest :=
  afterOpening?_eq_some_iff.mpr rfl

/-- What stands under different targets is named differently. -/
theorem rests_nodup {opening : String} {entries : List (String × Made CandidateProposal)}
    (distinct : (entries.map Prod.fst).Nodup) :
    ((entries.filterMap fun entry =>
      (afterOpening? opening entry.1).map fun rest => (rest, entry.2.fields.fact)).map
        Prod.fst).Nodup := by
  refine List.pairwise_map.mpr (List.pairwise_filterMap.mpr ((List.pairwise_map.mp distinct).imp ?_))
  intro first second differs one isOne other isOther same
  obtain ⟨oneRest, isFirst, rfl⟩ := Option.map_eq_some_iff.mp isOne
  obtain ⟨otherRest, isSecond, rfl⟩ := Option.map_eq_some_iff.mp isOther
  rw [afterOpening?_eq_some_iff] at isFirst isSecond
  have sameRest : oneRest = otherRest := same
  exact differs (by rw [isFirst, isSecond, sameRest])

theorem get?_factsUnder (opening rest : String) :
    (factsUnder proposals opening).get? rest =
      (proposals.get? (opening ++ rest)).map fun proposal => proposal.fields.fact := by
  have distinct := @rests_nodup opening _ proposals.keysNodup
  apply Option.ext
  intro fact
  rw [factsUnder, Mapping.get?_ofEntries distinct, Mapping.lookup_eq_some_iff distinct,
    List.mem_filterMap, Option.map_eq_some_iff]
  constructor
  · rintro ⟨⟨target, proposal⟩, member, isEntry⟩
    obtain ⟨other, isRest, same⟩ := Option.map_eq_some_iff.mp isEntry
    cases same
    rw [afterOpening?_eq_some_iff] at isRest
    exact ⟨proposal, isRest ▸ Mapping.get?_eq_some_iff.mpr member, rfl⟩
  · rintro ⟨proposal, found, rfl⟩
    exact ⟨_, Mapping.get?_eq_some_iff.mp found, by rw [afterOpening?_append]; rfl⟩

theorem mem_attributeFields {sku : String} {stated : CommerceAttribute} :
    stated ∈ attributeFields proposals sku ↔
      ∃ proposal, proposals.get? (variantAttributeTarget sku stated.key) = some proposal ∧
        proposal.fields.attributeKind = some stated.kind ∧
          proposal.fields.fact = stated.fact ∧ proposal.fields.unit = stated.unit := by
  rw [attributeFields, List.mem_filterMap]
  constructor
  · rintro ⟨⟨target, proposal⟩, member, isStated⟩
    split at isStated
    · next key kind isRest isKind =>
        cases isStated
        rw [afterOpening?_eq_some_iff] at isRest
        exact ⟨proposal, by rw [variantAttributeTarget, ← isRest]; exact
          Mapping.get?_eq_some_iff.mpr member, isKind, rfl, rfl⟩
    · cases isStated
  · rintro ⟨proposal, found, isKind, isFact, isUnit⟩
    refine ⟨_, Mapping.get?_eq_some_iff.mp found, ?_⟩
    dsimp only
    rw [variantAttributeTarget, afterOpening?_append, isKind, isFact, isUnit]

/-- No two attributes of a variant have one key. -/
theorem attributeFields_nodup (sku : String) :
    ((attributeFields proposals sku).map CommerceAttribute.key).Nodup := by
  refine List.pairwise_map.mpr (List.pairwise_filterMap.mpr
    ((List.pairwise_map.mp proposals.keysNodup).imp ?_))
  rintro ⟨target, proposal⟩ ⟨other, otherProposal⟩ differs one isOne second isSecond same
  split at isOne
  · next key kind isRest _ =>
      split at isSecond
      · next otherKey otherKind isOtherRest _ =>
          cases isOne
          cases isSecond
          rw [afterOpening?_eq_some_iff] at isRest isOtherRest
          have sameKey : key = otherKey := same
          exact differs (by rw [isRest, isOtherRest, sameKey])
      · cases isSecond
  · cases isOne

end Openings

/-! ## What is assembled -/

variable {fact : Made SemanticFact}

section Assembled

variable {proposals : Effective}

@[simp]
theorem constructing_eq_ok_iff {α : Type} {made : Except ValueError α} {value : α} :
    constructing made = .ok value ↔ made = .ok value := by
  cases made <;> simp [constructing]

theorem factAt_eq_ok_iff {target : String} :
    factAt proposals target = .ok fact ↔
      (proposals.get? target).map (fun proposal => proposal.fields.fact) = some fact := by
  unfold factAt
  cases proposals.get? target <;> simp

/-- A variant as it is assembled. -/
structure VariantShown (proposals : Effective) (variant : SourceVariant)
    (shown : CommerceVariant) : Prop where
  sku : shown.sku = variant.sku
  label : shown.label = variant.label
  price : (proposals.get? (variantPriceTarget variant.sku)).map
    (fun proposal => proposal.fields.fact) = some shown.price
  availability : (proposals.get? (variantAvailabilityTarget variant.sku)).map
    (fun proposal => proposal.fields.fact) = some shown.availability
  attributes : shown.attributes.map Made.fields = attributeFields proposals variant.sku
  compatibility : shown.compatibility =
    factsUnder proposals (variantCompatibilityPrefix variant.sku)

theorem variantShown_of_assemble {variant : SourceVariant} {shown : Made CommerceVariant}
    (isOk : assembleVariant proposals variant = .ok shown) :
    VariantShown proposals variant shown.fields := by
  obtain ⟨attributes, attributesOk, isOk⟩ := except_bind_eq_ok_iff.mp isOk
  obtain ⟨price, priceOk, isOk⟩ := except_bind_eq_ok_iff.mp isOk
  obtain ⟨availability, availabilityOk, isOk⟩ := except_bind_eq_ok_iff.mp isOk
  rw [constructing_eq_ok_iff] at attributesOk isOk
  have made : attributes.map Made.fields = attributeFields proposals variant.sku := by
    rw [← List.forall₂_eq_eq_eq, List.forall₂_map_left_iff]
    exact (mapM_eq_ok_iff.mp attributesOk).flip.imp fun _ _ isMade => fields_of_make isMade
  rw [fields_of_make isOk]
  exact ⟨rfl, rfl, factAt_eq_ok_iff.mp priceOk, factAt_eq_ok_iff.mp availabilityOk, made, rfl⟩

/-- A product as it is assembled. -/
structure ProductShown (proposals : Effective) (isFirst : Bool) (product : SourceProduct)
    (shown : CommerceProduct) : Prop where
  externalId : shown.externalId = product.externalId
  title : (proposals.get? (productTitleTarget product.externalId)).map
    (fun proposal => proposal.fields.fact) = some shown.title
  category : shown.category = (proposals.get? (productCategoryTarget product.externalId)).map
    fun proposal => proposal.fields.fact
  variants : List.Forall₂ (fun variant other => VariantShown proposals variant.fields other.fields)
    product.variants shown.variants
  policyFacts : shown.policyFacts = if isFirst then factsUnder proposals policyPrefix else .empty

theorem productShown_of_assemble {isFirst : Bool} {product : SourceProduct}
    {shown : Made CommerceProduct} (isOk : assembleProduct proposals isFirst product = .ok shown) :
    ProductShown proposals isFirst product shown.fields := by
  obtain ⟨variants, variantsOk, isOk⟩ := except_bind_eq_ok_iff.mp isOk
  obtain ⟨title, titleOk, isOk⟩ := except_bind_eq_ok_iff.mp isOk
  rw [constructing_eq_ok_iff] at isOk
  have related := (mapM_eq_ok_iff.mp variantsOk).imp fun _ _ isShown =>
    variantShown_of_assemble isShown
  rw [fields_of_make isOk]
  exact ⟨rfl, factAt_eq_ok_iff.mp titleOk, rfl, related, rfl⟩

/-- The products as they are assembled: policy facts stand at the first one. -/
inductive ProductsShown (proposals : Effective) :
    List (Made SourceProduct) → List (Made CommerceProduct) → Prop
  | nil : ProductsShown proposals [] []
  | cons {first : Made SourceProduct} {rest : List (Made SourceProduct)}
      {shown : Made CommerceProduct} {others : List (Made CommerceProduct)}
      (isFirst : ProductShown proposals true first.fields shown.fields)
      (later : List.Forall₂ (fun product other =>
        ProductShown proposals false product.fields other.fields) rest others) :
      ProductsShown proposals (first :: rest) (shown :: others)

theorem productsShown_of_assemble {products : List (Made SourceProduct)}
    {shown : List (Made CommerceProduct)} (isOk : assembleProducts proposals products = .ok shown) :
    ProductsShown proposals products shown := by
  cases products with
  | nil =>
      cases isOk
      exact .nil
  | cons first rest =>
      obtain ⟨made, madeOk, isOk⟩ := except_bind_eq_ok_iff.mp isOk
      obtain ⟨others, othersOk, isOk⟩ := except_bind_eq_ok_iff.mp isOk
      cases isOk
      exact .cons (productShown_of_assemble madeOk)
        ((mapM_eq_ok_iff.mp othersOk).imp fun _ _ isShown => productShown_of_assemble isShown)

/-- Every product is shown, the first one or a later one. -/
theorem ProductsShown.forall₂ {products : List (Made SourceProduct)}
    {shown : List (Made CommerceProduct)} (isShown : ProductsShown proposals products shown) :
    List.Forall₂ (fun product other =>
      ∃ isFirst, ProductShown proposals isFirst product.fields other.fields) products shown := by
  cases isShown with
  | nil => exact .nil
  | cons isFirst later => exact .cons ⟨true, isFirst⟩ (later.imp fun _ _ isLater => ⟨false, isLater⟩)

/-- A representation as it is assembled. -/
structure DefinitionShown (proposals : Effective) (source : MerchantSourceDefinition)
    (definition : CommerceIRDefinition) : Prop where
  sourceKey : definition.sourceKey = source.key
  sourceVersion : definition.sourceVersion = source.version
  products : ProductsShown proposals source.products definition.products

theorem definitionShown_of_assemble {source : MerchantSourceDefinition}
    {sourceHash configurationDigest : ContentHash} {definition : Made CommerceIRDefinition}
    (isOk : assemble source sourceHash configurationDigest proposals = .ok definition) :
    DefinitionShown proposals source definition.fields ∧
      definition.fields.sourceHash = sourceHash ∧ definition.fields.producer = .compiler ∧
        definition.fields.producerVersion = configurationDigest.text := by
  obtain ⟨products, productsOk, isOk⟩ := except_bind_eq_ok_iff.mp isOk
  rw [constructing_eq_ok_iff] at isOk
  rw [fields_of_make isOk]
  exact ⟨⟨rfl, rfl, productsShown_of_assemble productsOk⟩, rfl, rfl, rfl⟩

end Assembled

/-! ## Complete proposals are assembled -/

section Exists

variable {proposals : Effective} {source : MerchantSourceDefinition}

/-- A proposal at the target of a subject holds what the subject asks for. -/
theorem Complete.holds (complete : Complete source proposals) (plain : PlainIdentifiers source)
    {subject : Subject} (subjectPlain : subject.Plain) {proposal : Made CandidateProposal}
    (found : proposals.get? subject.target = some proposal) :
    subject.IsOf source ∧ subject.Holds proposal.fields := by
  obtain ⟨other, isOf, same, holds⟩ := complete.subjects _ _ found
  cases Subject.target_injective (isOf.plain plain) subjectPlain same
  exact ⟨isOf, holds⟩

theorem attribute_sound {stated : CommerceAttribute} {proposal : CandidateProposal}
    (visible : isBlank stated.key = false) (typed : TypedAttribute proposal stated.kind)
    (isFact : proposal.fact = stated.fact) (isUnit : proposal.unit = stated.unit) :
    Dataclass.refusal stated = none := by
  have held := typed.held
  rw [isFact] at held
  by_cases isMeasurement : stated.kind = .measurement
  · obtain ⟨unit, hasUnit, unitVisible⟩ := typed.measured isMeasurement
    rw [isUnit] at hasUnit
    rw [isMeasurement] at held
    simp [Dataclass.refusal, visible, held, isMeasurement, hasUnit, unitVisible]
  · have noUnit := typed.unmeasured isMeasurement
    rw [isUnit] at noUnit
    simp [Dataclass.refusal, visible, held, isMeasurement, noUnit]

theorem exists_factAt {target : String} (found : (proposals.get? target).isSome = true) :
    ∃ proposal, proposals.get? target = some proposal ∧
      factAt proposals target = .ok proposal.fields.fact := by
  obtain ⟨proposal, isProposal⟩ := Option.isSome_iff_exists.mp found
  exact ⟨proposal, isProposal, factAt_eq_ok_iff.mpr (by rw [isProposal]; rfl)⟩

theorem exists_assembleVariant (complete : Complete source proposals)
    (plain : PlainIdentifiers source) {variant : Made SourceVariant}
    (member : variant ∈ source.variants) :
    ∃ shown, assembleVariant proposals variant.fields = .ok shown := by
  have skuMem : variant.fields.sku ∈ source.skus := List.mem_map_of_mem member
  have skuPlain := plain.skus _ skuMem
  obtain ⟨attributes, attributesOk⟩ :
      ∃ attributes, (attributeFields proposals variant.fields.sku).mapM
        make = .ok attributes := by
    refine exists_mapM_eq_ok_iff.mpr fun stated statedMem => ?_
    obtain ⟨proposal, found, isKind, isFact, isUnit⟩ := mem_attributeFields.mp statedMem
    obtain ⟨_, visible, kind, typed⟩ :=
      @Complete.holds _ _ complete plain (.variant variant.fields.sku (.feature stated.key))
        skuPlain _ found
    cases isKind.symm.trans typed.isKind
    exact ⟨_, make_of_sound (attribute_sound visible typed isFact isUnit)⟩
  have keys : (attributes.map fun stated => stated.fields.key).Nodup := by
    have made : attributes.map Made.fields = attributeFields proposals variant.fields.sku := by
      rw [← List.forall₂_eq_eq_eq, List.forall₂_map_left_iff]
      exact (mapM_eq_ok_iff.mp attributesOk).flip.imp fun _ _ isMade => fields_of_make isMade
    have distinct := @attributeFields_nodup proposals variant.fields.sku
    rwa [← made, List.map_map] at distinct
  obtain ⟨price, _, priceOk⟩ := exists_factAt (complete.prices _ skuMem)
  obtain ⟨stock, stockFound, stockOk⟩ := exists_factAt (complete.availabilities _ skuMem)
  have stockState : isValueState stock.fields.fact.fields.value = true :=
    (@Complete.holds _ _ complete plain (.variant variant.fields.sku .availability)
      skuPlain _ stockFound).2
  have compatible : ∀ entry ∈ (factsUnder proposals
      (variantCompatibilityPrefix variant.fields.sku)).entries,
      isValueState entry.2.fields.value = true := by
    rintro ⟨capability, fact⟩ entryMem
    rw [← Mapping.get?_eq_some_iff, get?_factsUnder, Option.map_eq_some_iff] at entryMem
    obtain ⟨proposal, found, rfl⟩ := entryMem
    exact (@Complete.holds _ _ complete plain
      (.variant variant.fields.sku (.compatibility capability)) skuPlain _ found).2
  have visible : isBlank variant.fields.sku = false := by
    have sound := variant.sound
    simp only [Dataclass.refusal, firstRefusal_eq_none_iff, List.forall_mem_cons,
      Bool.or_eq_false_iff] at sound
    exact sound.1.1
  refine ⟨_, except_bind_eq_ok_iff.mpr ⟨attributes, constructing_eq_ok_iff.mpr attributesOk,
    except_bind_eq_ok_iff.mpr ⟨_, priceOk, except_bind_eq_ok_iff.mpr ⟨_, stockOk,
      constructing_eq_ok_iff.mpr (make_of_sound ?_)⟩⟩⟩⟩
  simp only [Dataclass.refusal, firstRefusal_eq_none_iff, List.forall_mem_cons,
    List.not_mem_nil, false_imp_iff, implies_true, and_true]
  refine ⟨visible, by simp [keys], by simp [stockState], ?_⟩
  rw [List.any_eq_false]
  intro entry entryMem
  simp [compatible entry entryMem]

theorem exists_assembleProduct (complete : Complete source proposals)
    (plain : PlainIdentifiers source) {product : Made SourceProduct}
    (member : product ∈ source.products) (isFirst : Bool) :
    ∃ shown, assembleProduct proposals isFirst product.fields = .ok shown := by
  obtain ⟨variants, variantsOk⟩ :
      ∃ variants, product.fields.variants.mapM
        (fun variant => assembleVariant proposals variant.fields) = .ok variants :=
    exists_mapM_eq_ok_iff.mpr fun variant variantMem =>
      exists_assembleVariant complete plain (mem_variants_iff.mpr ⟨product, member, variantMem⟩)
  obtain ⟨title, _, titleOk⟩ := exists_factAt (complete.titles _ (List.mem_map_of_mem member))
  have sound := product.sound
  simp only [Dataclass.refusal, firstRefusal_eq_none_iff, List.forall_mem_cons,
    Bool.or_eq_false_iff] at sound
  have isSome : variants ≠ [] := by
    rintro rfl
    have related := mapM_eq_ok_iff.mp variantsOk
    rw [List.forall₂_nil_right_iff] at related
    simp [related] at sound
  refine ⟨_, except_bind_eq_ok_iff.mpr ⟨variants, variantsOk, except_bind_eq_ok_iff.mpr ⟨_, titleOk,
    constructing_eq_ok_iff.mpr (make_of_sound ?_)⟩⟩⟩
  simp [Dataclass.refusal, sound.1.1.1, isSome]

theorem exists_assembleProducts (complete : Complete source proposals)
    (plain : PlainIdentifiers source) :
    ∃ shown, assembleProducts proposals source.products = .ok shown := by
  have each := fun product member => @exists_assembleProduct _ _ complete plain product member
  cases products : source.products with
  | nil => exact ⟨[], rfl⟩
  | cons first rest =>
      rw [products] at each
      obtain ⟨shown, shownOk⟩ := each first List.mem_cons_self true
      obtain ⟨others, othersOk⟩ := exists_mapM_eq_ok_iff.mpr fun product member =>
        each product (List.mem_cons_of_mem _ member) false
      exact ⟨shown :: others, except_bind_eq_ok_iff.mpr ⟨shown, shownOk,
        except_bind_eq_ok_iff.mpr ⟨others, othersOk, rfl⟩⟩⟩

end Exists

section Shown

variable {proposals : Effective} {source : MerchantSourceDefinition}
  {definition : CommerceIRDefinition}

/-- Two lists that are related item by item agree in what related items agree in. -/
theorem map_eq_of_forall₂ {α β γ : Type} {relation : α → β → Prop} {first : α → γ}
    {second : β → γ} {items : List α} {others : List β}
    (related : List.Forall₂ relation items others)
    (agree : ∀ item other, relation item other → second other = first item) :
    others.map second = items.map first := by
  rw [← List.forall₂_eq_eq_eq, List.forall₂_map_left_iff, List.forall₂_map_right_iff]
  exact related.flip.imp fun _ _ isRelated => agree _ _ isRelated

/-- The variants are shown in the order of the source. -/
theorem DefinitionShown.variants (isShown : DefinitionShown proposals source definition) :
    List.Forall₂ (fun variant shown => VariantShown proposals variant.fields shown.fields)
      source.variants (shownVariants definition) :=
  List.rel_flatMap isShown.products.forall₂ fun _ _ ⟨_, shown⟩ => shown.variants

theorem skus_eq (definition : CommerceIRDefinition) :
    definition.skus = (shownVariants definition).map fun variant => variant.fields.sku := by
  rw [CommerceIRDefinition.skus, shownVariants, List.map_flatMap]

end Shown

/-- A content hash is not blank. -/
theorem isBlank_contentHash (hash : ContentHash) : isBlank hash.text = false := by
  have labelled : "sha256:".toList <+: hash.text.toList := by
    have isLabelled := hash.isLabelled
    rw [String.isPrefixOf] at isLabelled
    simpa using isLabelled
  have first : 's' ∈ hash.text.toList := labelled.subset (by decide)
  exact isBlank_of_visible first (by decide)

/-- Complete proposals are assembled into a representation. -/
theorem exists_assemble {proposals : Effective} {source : MerchantSourceDefinition}
    (sound : SourceSound source) (complete : Complete source proposals)
    (plain : PlainIdentifiers source) (sourceHash configurationDigest : ContentHash) :
    ∃ definition, assemble source sourceHash configurationDigest proposals = .ok definition := by
  obtain ⟨products, productsOk⟩ := exists_assembleProducts complete plain
  let fields : CommerceIRDefinition :=
    { sourceKey := source.key
      sourceVersion := source.version
      sourceHash := sourceHash
      producer := .compiler
      producerVersion := configurationDigest.text
      products := products }
  have isShown := productsShown_of_assemble productsOk
  have shown : ∀ definition : CommerceIRDefinition, definition.products = products →
      definition.externalIds.Nodup ∧ definition.skus.Nodup ∧ definition.products ≠ [] := by
    intro definition isProducts
    rw [← isProducts] at isShown
    have externalIds := map_eq_of_forall₂ isShown.forall₂ fun _ _ ⟨_, shown⟩ => shown.externalId
    have variants : List.Forall₂ _ source.variants (shownVariants definition) :=
      List.rel_flatMap isShown.forall₂ fun _ _ ⟨_, shown⟩ => shown.variants
    have skus := map_eq_of_forall₂ variants fun _ _ shown => shown.sku
    refine ⟨?_, ?_, ?_⟩
    · rw [CommerceIRDefinition.externalIds, externalIds]
      exact sound.externalIds
    · rw [skus_eq, skus]
      exact sound.skus
    · intro empty
      rw [empty] at isShown
      cases products : source.products with
      | nil => exact sound.products products
      | cons first rest =>
          rw [products] at isShown
          cases isShown
  obtain ⟨externalIds, skus, notEmpty⟩ := shown fields rfl
  have short : configurationDigest.text.length ≤ maxProducerVersionLength := by
    rw [configurationDigest.length]
    decide
  refine ⟨_, except_bind_eq_ok_iff.mpr ⟨products, productsOk,
    constructing_eq_ok_iff.mpr (@make_of_sound _ _ fields ?_)⟩⟩
  simp only [Dataclass.refusal, Option.or_eq_none_iff, firstRefusal_eq_none_iff,
    List.forall_mem_cons, List.not_mem_nil, false_imp_iff, implies_true, and_true]
  refine ⟨sound.key, ?_, ?_, ?_, ?_⟩
  · have version := sound.version
    simp only [decide_eq_false_iff_not, not_lt]
    exact version
  · simpa [notEmpty] using isBlank_contentHash configurationDigest
  · simpa using short
  · simp [externalIds, skus]

/-! ## What is shown is what the proposals hold -/

section Shows

variable {proposals : Effective} {source : MerchantSourceDefinition}
  {definition : CommerceIRDefinition}

/-- A field of the variant of a SKU is shown as a proposal holds it. -/
theorem exists_variant_iff (isShown : DefinitionShown proposals source definition) {sku : String}
    {target : String} {fact : Made SemanticFact} {field : CommerceVariant → Made SemanticFact → Prop}
    (agrees : ∀ variant : SourceVariant, ∀ shown : CommerceVariant, variant.sku = sku →
      VariantShown proposals variant shown →
        (field shown fact ↔
          ∃ proposal, proposals.get? target = some proposal ∧ proposal.fields.fact = fact)) :
    (∃ variant ∈ shownVariants definition, variant.fields.sku = sku ∧ field variant.fields fact) ↔
      sku ∈ source.skus ∧
        ∃ proposal, proposals.get? target = some proposal ∧ proposal.fields.fact = fact := by
  constructor
  · rintro ⟨shown, member, isSku, holds⟩
    obtain ⟨variant, variantMem, related⟩ := exists_left_of_forall₂ isShown.variants member
    have sameSku : variant.fields.sku = sku := related.sku.symm.trans isSku
    exact ⟨sameSku ▸ List.mem_map_of_mem variantMem, (agrees _ _ sameSku related).mp holds⟩
  · rintro ⟨skuMem, held⟩
    obtain ⟨variant, variantMem, isSku⟩ := List.mem_map.mp skuMem
    obtain ⟨shown, member, related⟩ := exists_right_of_forall₂ isShown.variants variantMem
    exact ⟨shown, member, related.sku.trans isSku, (agrees _ _ isSku related).mpr held⟩

theorem exists_product_iff (isShown : DefinitionShown proposals source definition)
    {externalId target : String} {fact : Made SemanticFact}
    {field : CommerceProduct → Made SemanticFact → Prop}
    (agrees : ∀ product : SourceProduct, ∀ shown : CommerceProduct, ∀ isFirst,
      product.externalId = externalId → ProductShown proposals isFirst product shown →
        (field shown fact ↔
          ∃ proposal, proposals.get? target = some proposal ∧ proposal.fields.fact = fact)) :
    (∃ product ∈ definition.products, product.fields.externalId = externalId ∧
        field product.fields fact) ↔
      externalId ∈ source.externalIds ∧
        ∃ proposal, proposals.get? target = some proposal ∧ proposal.fields.fact = fact := by
  constructor
  · rintro ⟨shown, member, isId, holds⟩
    obtain ⟨product, productMem, isFirst, related⟩ :=
      exists_left_of_forall₂ isShown.products.forall₂ member
    have sameId : product.fields.externalId = externalId := related.externalId.symm.trans isId
    exact ⟨sameId ▸ List.mem_map_of_mem productMem, (agrees _ _ _ sameId related).mp holds⟩
  · rintro ⟨idMem, held⟩
    obtain ⟨product, productMem, isId⟩ := List.mem_map.mp idMem
    obtain ⟨shown, member, isFirst, related⟩ :=
      exists_right_of_forall₂ isShown.products.forall₂ productMem
    exact ⟨shown, member, related.externalId.trans isId, (agrees _ _ _ isId related).mpr held⟩

theorem held_iff {target : String} {held : Made SemanticFact}
    (isHeld : (proposals.get? target).map (fun proposal => proposal.fields.fact) = some held) :
    held = fact ↔
      ∃ proposal, proposals.get? target = some proposal ∧ proposal.fields.fact = fact := by
  rw [← Option.map_eq_some_iff, isHeld, Option.some.injEq]

/-- The attributes of a variant hold what the proposals about its features do. -/
theorem exists_attribute_iff (complete : Complete source proposals)
    (plain : PlainIdentifiers source) {variant : SourceVariant} {shown : CommerceVariant}
    (related : VariantShown proposals variant shown) (skuPlain : IsPlain variant.sku)
    {key : String} :
    (∃ stated ∈ shown.attributes, stated.fields.key = key ∧ stated.fields.fact = fact) ↔
      ∃ proposal, proposals.get? (variantAttributeTarget variant.sku key) = some proposal ∧
        proposal.fields.fact = fact := by
  constructor
  · rintro ⟨stated, member, rfl, rfl⟩
    have fieldsMem : stated.fields ∈ attributeFields proposals variant.sku := by
      rw [← related.attributes]
      exact List.mem_map_of_mem member
    obtain ⟨proposal, found, _, isFact, _⟩ := mem_attributeFields.mp fieldsMem
    exact ⟨proposal, found, isFact⟩
  · rintro ⟨proposal, found, rfl⟩
    obtain ⟨_, _, kind, typed⟩ :=
      @Complete.holds _ _ complete plain (.variant variant.sku (.feature key)) skuPlain _ found
    let fields : CommerceAttribute :=
      { key := key
        kind := kind
        fact := proposal.fields.fact
        unit := proposal.fields.unit }
    have fieldsMem : fields ∈ attributeFields proposals variant.sku :=
      mem_attributeFields.mpr ⟨proposal, found, typed.isKind, rfl, rfl⟩
    rw [← related.attributes] at fieldsMem
    obtain ⟨stated, member, isStated⟩ := List.mem_map.mp fieldsMem
    exact ⟨stated, member, by rw [isStated], by rw [isStated]⟩

/-- The policy facts of a representation are those of its first product. -/
theorem exists_policy_iff (isShown : DefinitionShown proposals source definition)
    (sound : SourceSound source) {name : String} :
    (∃ product ∈ definition.products, product.fields.policyFacts.get? name = some fact) ↔
      ∃ proposal, proposals.get? (policyTarget name) = some proposal ∧
        proposal.fields.fact = fact := by
  have notEmpty := sound.products
  have products := isShown.products
  generalize source.products = listed at products notEmpty
  generalize definition.products = shownProducts at products ⊢
  cases products with
  | nil => exact absurd rfl notEmpty
  | @cons first rest shown others isFirst later =>
      have atFirst : shown.fields.policyFacts.get? name = some fact ↔
          ∃ proposal, proposals.get? (policyTarget name) = some proposal ∧
            proposal.fields.fact = fact := by
        rw [isFirst.policyFacts, if_pos rfl, get?_factsUnder, Option.map_eq_some_iff]
        rfl
      rw [← atFirst]
      constructor
      · rintro ⟨product, member, held⟩
        rcases List.mem_cons.mp member with rfl | isLater
        · exact held
        · obtain ⟨_, _, related⟩ := exists_left_of_forall₂ later isLater
          rw [related.policyFacts] at held
          cases held
      · exact fun held => ⟨shown, List.mem_cons_self, held⟩

/-- A representation shows a fact exactly where a proposal about the subject holds it. -/
theorem shows_iff (isShown : DefinitionShown proposals source definition)
    (sound : SourceSound source) (complete : Complete source proposals)
    (plain : PlainIdentifiers source) {subject : Subject} :
    Shows definition fact subject ↔
      subject.IsOf source ∧ ∃ proposal, proposals.get? subject.target = some proposal ∧
        proposal.fields.fact = fact := by
  cases subject with
  | product externalId field =>
      cases field with
      | title =>
          refine @exists_product_iff _ _ _ isShown _ _ _ (fun shown fact => shown.title = fact) ?_
          intro product shown isFirst isId related
          exact held_iff (isId ▸ related.title)
      | category =>
          refine @exists_product_iff _ _ _ isShown _ _ _
            (fun shown fact => shown.category = some fact) ?_
          intro product shown isFirst isId related
          rw [related.category, isId, Option.map_eq_some_iff]
          rfl
  | variant sku field =>
      cases field with
      | price =>
          refine @exists_variant_iff _ _ _ isShown _ _ _ (fun shown fact => shown.price = fact) ?_
          intro variant shown isSku related
          exact held_iff (isSku ▸ related.price)
      | availability =>
          refine @exists_variant_iff _ _ _ isShown _ _ _
            (fun shown fact => shown.availability = fact) ?_
          intro variant shown isSku related
          exact held_iff (isSku ▸ related.availability)
      | feature key =>
          constructor
          · rintro ⟨shown, member, isSku, held⟩
            obtain ⟨variant, variantMem, related⟩ :=
              exists_left_of_forall₂ isShown.variants member
            have sameSku : variant.fields.sku = sku := related.sku.symm.trans isSku
            have skuMem : sku ∈ source.skus := sameSku ▸ List.mem_map_of_mem variantMem
            refine ⟨skuMem, ?_⟩
            rw [exists_attribute_iff complete plain related (sameSku ▸ plain.skus _ skuMem),
              sameSku] at held
            exact held
          · rintro ⟨skuMem, held⟩
            obtain ⟨variant, variantMem, isSku⟩ := List.mem_map.mp skuMem
            obtain ⟨shown, member, related⟩ := exists_right_of_forall₂ isShown.variants variantMem
            refine ⟨shown, member, related.sku.trans isSku, ?_⟩
            rw [exists_attribute_iff complete plain related (isSku ▸ plain.skus _ skuMem), isSku]
            exact held
      | compatibility capability =>
          refine @exists_variant_iff _ _ _ isShown _ _ _
            (fun shown fact => shown.compatibility.get? capability = some fact) ?_
          intro variant shown isSku related
          rw [related.compatibility, get?_factsUnder, isSku, Option.map_eq_some_iff]
          rfl
  | policy name => exact (exists_policy_iff isShown sound).trans (and_iff_right trivial).symm

end Shows

end AgentRank.Compiler
