import AgentRank.Compiler.Assembly

/-!
# The grammars of addresses and targets

An address of a source document is read back to the field that it was made of, and a target names
one fact.  So nothing that is kept under addresses or targets collides, and what is gathered under
the prefix of a variant is about that variant.
-/

namespace AgentRank.Representation

open Relational Text

/-! ## Reading an address -/

/-- What stands before the first closing bracket, and behind the dot that follows it. -/
def bracketed? (text : String) : Option (String × String) :=
  match text.toList.dropWhile (· != ']') with
  | ']' :: '.' :: rest =>
      some (String.ofList (text.toList.takeWhile (· != ']')), String.ofList rest)
  | _ => none

/-- The fields of a variant that are no metadata. -/
def VariantField.named : List VariantField :=
  [priceAmountMinor, availability, inventoryQuantity, label]

def VariantField.parse (text : String) : Option VariantField :=
  (named.find? fun field => field.text == text).or
    ((afterOpening? metadataPrefix text).map metadata)

/-- The fields of a product that are not those of a variant. -/
def ProductField.named : List ProductField :=
  [title, description, category]

def ProductField.parse (text : String) : Option ProductField :=
  (named.find? fun field => field.text == text).or <|
    (afterOpening? "variants[" text).bind fun behind =>
      (bracketed? behind).bind fun parts =>
        (VariantField.parse parts.2).map fun field => variant parts.1 field

def FieldAddress.parse (text : String) : Option FieldAddress :=
  ((afterOpening? "policy_text." text).map policy).or <|
    (afterOpening? "products[" text).bind fun behind =>
      (bracketed? behind).bind fun parts =>
        (ProductField.parse parts.2).map fun field => product parts.1 field

theorem bracketed?_append {inside : String} (plain : IsPlain inside) (rest : String) :
    bracketed? (inside ++ "]." ++ rest) = some (inside, rest) := by
  have free : ∀ char ∈ inside.toList, (char != ']') = true := by
    intro char member
    rw [bne_iff_ne]
    rintro rfl
    exact plain.2 member
  have chars : (inside ++ "]." ++ rest).toList = inside.toList ++ ']' :: '.' :: rest.toList := by
    rw [String.toList_append, String.toList_append, List.append_assoc]
    rfl
  have before : (inside.toList ++ ']' :: '.' :: rest.toList).takeWhile (· != ']') =
      inside.toList := by
    rw [List.takeWhile_append_of_pos free]
    simp
  have behind : (inside.toList ++ ']' :: '.' :: rest.toList).dropWhile (· != ']') =
      ']' :: '.' :: rest.toList := by
    rw [List.dropWhile_append_of_pos free]
    simp
  rw [bracketed?, chars, before, behind]
  simp only [String.ofList_toList]

theorem VariantField.parse_text (field : VariantField) : parse field.text = some field := by
  cases field with
  | metadata key =>
      have unnamed : (named.find? fun field => field.text == (metadata key).text) = none := by
        rw [List.find?_eq_none]
        intro other member same
        cases VariantField.text_injective (beq_iff_eq.mp same)
        simp [named] at member
      rw [parse, unnamed, Option.none_or, Option.map_eq_some_iff]
      exact ⟨key, afterOpening?_eq_some_iff.mpr rfl, rfl⟩
  | priceAmountMinor | availability | inventoryQuantity | label => decide +kernel

theorem ProductField.parse_text {field : ProductField} (plain : field.Plain) :
    parse field.text = some field := by
  cases field with
  | variant sku field =>
      have unnamed : (named.find? fun other => other.text == (variant sku field).text) = none := by
        rw [List.find?_eq_none]
        intro other member same
        have otherPlain : other.Plain := by
          rcases List.mem_cons.mp member with rfl | later
          · trivial
          · rcases List.mem_cons.mp later with rfl | last
            · trivial
            · rw [List.mem_singleton.mp last]
              trivial
        cases ProductField.text_injective otherPlain plain (beq_iff_eq.mp same)
        simp [named] at member
      have opened : afterOpening? "variants[" (variant sku field).text =
          some (sku ++ "]." ++ field.text) := by
        rw [afterOpening?_eq_some_iff, text, String.append_assoc, String.append_assoc,
          String.append_assoc]
      rw [parse, unnamed, Option.none_or, opened, Option.bind_some, bracketed?_append plain,
        Option.bind_some, VariantField.parse_text]
      rfl
  | title | description | category => decide +kernel

/-- An address with plain identifiers is read back to the field that it was made of. -/
theorem FieldAddress.parse_text {address : FieldAddress} (plain : address.Plain) :
    parse address.text = some address := by
  cases address with
  | product externalId field =>
      have opened : afterOpening? "products[" (product externalId field).text =
          some (externalId ++ "]." ++ field.text) := by
        rw [afterOpening?_eq_some_iff, text, String.append_assoc, String.append_assoc,
          String.append_assoc]
      have noPolicy : afterOpening? "policy_text." (product externalId field).text = none := by
        rw [Option.eq_none_iff_forall_ne_some]
        intro name isPolicy
        have same := congrArg String.toList (afterOpening?_eq_some_iff.mp isPolicy)
        simp [text] at same
      rw [parse, noPolicy, Option.map_none, Option.none_or, opened, Option.bind_some,
        bracketed?_append plain.1, Option.bind_some, ProductField.parse_text plain.2]
      rfl
  | policy name =>
      rw [parse, text, afterOpening?_eq_some_iff.mpr rfl]
      rfl

end AgentRank.Representation

namespace AgentRank.Compiler

open Constraints Relational Representation Store Text

/-- A target begins as those of a variant do exactly where it is one of them. -/
theorem Subject.begins_variant_iff {subject : Subject} (plain : subject.Plain) {sku : String}
    (skuPlain : IsPlain sku) :
    (variantPrefix sku).toList <+: subject.target.toList ↔ ∃ field, subject = .variant sku field := by
  constructor
  · rintro ⟨rest, isTarget⟩
    have same : subject.target = "variant." ++ sku ++ "." ++ String.ofList rest := by
      apply String.toList_injective
      rw [← isTarget, String.toList_append, String.toList_ofList, variantPrefix]
    cases subject with
    | product externalId field =>
        rw [target_product] at same
        have sameChars := congrArg String.toList same
        simp at sameChars
    | variant other field =>
        rw [target_variant] at same
        obtain ⟨sameSku, _⟩ := dotted_injective plain skuPlain same
        exact ⟨field, by rw [sameSku]⟩
    | policy name =>
        have sameChars := congrArg String.toList same
        simp [target, policyTarget, policyPrefix] at sameChars
  · rintro ⟨field, rfl⟩
    refine ⟨field.text.toList, ?_⟩
    rw [target_variant, String.toList_append, variantPrefix]

/-- A target begins as those of a product do exactly where it is one of them. -/
theorem Subject.begins_product_iff {subject : Subject} (plain : subject.Plain)
    {externalId : String} (idPlain : IsPlain externalId) :
    (productPrefix externalId).toList <+: subject.target.toList ↔
      ∃ field, subject = .product externalId field := by
  constructor
  · rintro ⟨rest, isTarget⟩
    have same : subject.target = "product." ++ externalId ++ "." ++ String.ofList rest := by
      apply String.toList_injective
      rw [← isTarget, String.toList_append, String.toList_ofList, productPrefix]
    cases subject with
    | product other field =>
        rw [target_product] at same
        obtain ⟨sameId, _⟩ := dotted_injective plain idPlain same
        exact ⟨field, by rw [sameId]⟩
    | variant sku field =>
        rw [target_variant] at same
        have sameChars := congrArg String.toList same
        simp at sameChars
    | policy name =>
        have sameChars := congrArg String.toList same
        simp [target, policyTarget, policyPrefix] at sameChars
  · rintro ⟨field, rfl⟩
    refine ⟨field.text.toList, ?_⟩
    rw [target_product, String.toList_append, productPrefix]

variable {reviews : Uuid → Option CompilerReview} {candidates : List CompilerCandidate}
  {proposals : Effective}

/-- An effective proposal is one that a candidate came to under its own target. -/
theorem exists_of_effective (isEffective : effective candidates reviews = .ok proposals)
    {target : String} {proposal : Made CandidateProposal}
    (found : proposals.get? target = some proposal) :
    ∃ candidate ∈ candidates, candidate.target = target ∧
      effectiveProposal candidate (reviews candidate.id) = .ok (some proposal) := by
  obtain ⟨settled, isSettled, isBuilt⟩ := except_bind_eq_ok_iff.mp isEffective
  cases isBuilt
  have member := Mapping.mem_ofEntries found
  obtain ⟨held, heldMem, isHeld⟩ := List.mem_filterMap.mp member
  obtain ⟨candidate, candidateMem, came⟩ :=
    exists_left_of_forall₂ (mapM_eq_ok_iff.mp isSettled) heldMem
  obtain ⟨outcome, isOutcome, isEntry⟩ := except_bind_eq_ok_iff.mp came
  cases isEntry
  cases outcome with
  | none => cases isHeld
  | some other =>
      cases isHeld
      exact ⟨candidate, candidateMem, rfl, isOutcome⟩

section Gathered

variable [CharacterTables] {source : MerchantSourceDefinition}

/-- A fact is what a candidate about a subject came to. -/
def CameTo (source : MerchantSourceDefinition) (candidates : List CompilerCandidate)
    (reviews : Uuid → Option CompilerReview) (subject : Subject) (fact : Made SemanticFact) :
    Prop :=
  ∃ candidate ∈ candidates, ∃ reading ∈ readings source,
    reading.subject = subject ∧ candidate.target = reading.subject.target ∧
      ∃ proposal, effectiveProposal candidate (reviews candidate.id) = .ok (some proposal) ∧
        proposal.fields.fact = fact

/-- What is gathered under the prefixes is about what the prefixes name. -/
structure GathersOwn (source : MerchantSourceDefinition) (candidates : List CompilerCandidate)
    (reviews : Uuid → Option CompilerReview) (proposals : Effective) : Prop where
  attributes : ∀ sku ∈ source.skus, ∀ stated ∈ attributeFields proposals sku,
    CameTo source candidates reviews (.variant sku (.feature stated.key)) stated.fact
  compatibility : ∀ sku ∈ source.skus, ∀ capability fact,
    (factsUnder proposals (variantCompatibilityPrefix sku)).get? capability = some fact →
      CameTo source candidates reviews (.variant sku (.compatibility capability)) fact
  policies : ∀ name fact, (factsUnder proposals policyPrefix).get? name = some fact →
    CameTo source candidates reviews (.policy name) fact

theorem cameTo_of_held (plain : PlainIdentifiers source)
    (ofReadings : ∀ candidate ∈ candidates, ∃ reading ∈ readings source,
      candidate.target = reading.subject.target)
    (isEffective : effective candidates reviews = .ok proposals) {subject : Subject}
    (subjectPlain : subject.Plain) {proposal : Made CandidateProposal}
    (found : proposals.get? subject.target = some proposal) :
    CameTo source candidates reviews subject proposal.fields.fact := by
  obtain ⟨candidate, candidateMem, isTarget, outcome⟩ := exists_of_effective isEffective found
  obtain ⟨reading, readingMem, isReading⟩ := ofReadings candidate candidateMem
  have about : reading.subject = subject :=
    Subject.target_injective ((readings_sound readingMem).subject.plain plain) subjectPlain
      (isReading.symm.trans isTarget)
  exact ⟨candidate, candidateMem, reading, readingMem, about, isReading, proposal, outcome, rfl⟩

theorem gathersOwn_of_effective (plain : PlainIdentifiers source)
    (ofReadings : ∀ candidate ∈ candidates, ∃ reading ∈ readings source,
      candidate.target = reading.subject.target)
    (isEffective : effective candidates reviews = .ok proposals) :
    GathersOwn source candidates reviews proposals := by
  constructor
  · intro sku skuMem stated member
    obtain ⟨proposal, found, _, isFact, _⟩ := mem_attributeFields.mp member
    rw [← isFact]
    have skuPlain : (Subject.variant sku (.feature stated.key)).Plain := plain.skus sku skuMem
    exact cameTo_of_held plain ofReadings isEffective skuPlain found
  · intro sku skuMem capability fact isHeld
    rw [get?_factsUnder, Option.map_eq_some_iff] at isHeld
    obtain ⟨proposal, found, rfl⟩ := isHeld
    have skuPlain : (Subject.variant sku (.compatibility capability)).Plain :=
      plain.skus sku skuMem
    exact cameTo_of_held plain ofReadings isEffective skuPlain found
  · intro name fact isHeld
    rw [get?_factsUnder, Option.map_eq_some_iff] at isHeld
    obtain ⟨proposal, found, rfl⟩ := isHeld
    have namePlain : (Subject.policy name).Plain := trivial
    exact cameTo_of_held plain ofReadings isEffective namePlain found

end Gathered

section Accepted

variable [CharacterTables] [ContentDigest] [FieldOrder] {source : Made MerchantSourceDefinition}

/-- Addresses and targets of a document name one thing each, and prefixes keep apart what they
name. -/
structure Unambiguous (source : Made MerchantSourceDefinition) : Prop where
  addresses : ((declaredFields source.fields).map fun field => field.1.text).Nodup
  parsed : ∀ field ∈ declaredFields source.fields,
    FieldAddress.parse field.1.text = some field.1
  found : ∀ field ∈ declaredFields source.fields,
    (sourceFields source.fields).get? field.1.text = some field.2
  targets : ((readings source.fields).map fun reading => reading.subject.target).Nodup
  named : ∀ first second : Subject, first.IsOf source.fields → second.IsOf source.fields →
    first.target = second.target → first = second
  ofSource : ∀ reading ∈ readings source.fields, reading.subject.IsOf source.fields
  variantPrefixes : ∀ sku ∈ source.fields.skus, ∀ subject : Subject,
    subject.IsOf source.fields →
      ((variantPrefix sku).toList <+: subject.target.toList ↔
        ∃ field, subject = .variant sku field)
  productPrefixes : ∀ externalId ∈ source.fields.externalIds, ∀ subject : Subject,
    subject.IsOf source.fields →
      ((productPrefix externalId).toList <+: subject.target.toList ↔
        ∃ field, subject = .product externalId field)
  candidates : ((compile source.fields.payload.stored source.fields.contentHash).2.map
    fun candidate => candidate.1.fields.target).Nodup
  gathered : ∀ (candidates : List CompilerCandidate) (reviews : Uuid → Option CompilerReview)
    (proposals : Effective),
    (∀ candidate ∈ candidates, ∃ reading ∈ readings source.fields,
      candidate.target = reading.subject.target) →
      effective candidates reviews = .ok proposals →
        GathersOwn source.fields candidates reviews proposals

/-- What the compiler keeps of an accepted document has a target each. -/
theorem compiled_nodup (accepted : AcceptedSource source) :
    ((compile source.fields.payload.stored source.fields.contentHash).2.map
      fun candidate => candidate.1.fields.target).Nodup := by
  obtain ⟨candidates, extracted⟩ := exists_extract source.fields
  rcases compile_of_accepted accepted extracted with ⟨_, compiled⟩ | ⟨_, failed⟩
  · rw [compiled]
    exact targets_nodup (sourceSound_iff.mp source.sound) accepted.plain extracted
  · rw [failed]
    exact List.nodup_nil

/-- In a document that the intake accepted, addresses and targets name one thing each. -/
theorem unambiguous_of_accepted (accepted : AcceptedSource source) : Unambiguous source := by
  have sound := sourceSound_iff.mp source.sound
  have plain := accepted.plain
  have injective : ∀ first second : Subject, first.IsOf source.fields →
      second.IsOf source.fields → first.target = second.target → first = second :=
    fun first second isFirst isSecond same =>
      Subject.target_injective (isFirst.plain plain) (isSecond.plain plain) same
  constructor
  · exact addresses_nodup sound plain
  · intro field member
    exact FieldAddress.parse_text (declaredFields_plain plain member)
  · intro field member
    exact sourceFields_resolves sound plain member
  · have subjects := List.pairwise_map.mp (readings_subjects_nodup sound)
    refine List.pairwise_map.mpr (subjects.imp_of_mem ?_)
    intro first second firstMem secondMem differs same
    exact differs (injective _ _ (readings_sound firstMem).subject
      (readings_sound secondMem).subject same)
  · exact injective
  · exact fun reading member => (readings_sound member).subject
  · intro sku skuMem subject isOf
    exact Subject.begins_variant_iff (isOf.plain plain) (plain.skus sku skuMem)
  · intro externalId idMem subject isOf
    exact Subject.begins_product_iff (isOf.plain plain) (plain.externalIds externalId idMem)
  · exact compiled_nodup accepted
  · intro candidates reviews proposals ofReadings isEffective
    exact gathersOwn_of_effective plain ofReadings isEffective

end Accepted

theorem unambiguous_of_accepted_hub :
    let _ := hubTables
    let _ := hubDigest
    let _ := hubOrder
    Unambiguous hubSource := by
  intro _ _ _
  exact unambiguous_of_accepted hubSource_accepted

end AgentRank.Compiler
