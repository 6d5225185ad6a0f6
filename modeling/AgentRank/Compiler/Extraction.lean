import AgentRank.Compiler.Targets
import AgentRank.Representation.Schemas

/-!
# What the compiler reads in a source document

This module models `compiler/extraction.py` and the proposals of `compiler/definitions.py`.
Each reading says what is stated, where, and about which field of the representation; a
reading becomes a proposal through constructors that may refuse it.
-/

namespace AgentRank.Compiler

open Constraints Relational Representation Store Text

structure CandidateProposal where
  target : String
  fact : Made SemanticFact
  attributeKind : Option AttributeKind := none
  unit : Option String := none
  requiresCorrection : Bool := false
deriving DecidableEq

instance : Dataclass CandidateProposal where
  refusal proposal :=
    firstRefusal
      [(isBlank proposal.target, "candidate target must not be blank"),
        (proposal.attributeKind.isNone && proposal.unit.isSome,
          "only attribute candidates may carry units"),
        (proposal.attributeKind = some .measurement && proposal.unit.all String.isEmpty,
          "measurement candidate needs a unit"),
        (proposal.attributeKind ≠ some .measurement && proposal.unit.isSome,
          "only measurement candidate may carry a unit")]

inductive CandidateState
  | accepted
  | reviewRequired
  | rejected
deriving DecidableEq

/-- How a reading stands to the source: copied from it, read in its text, or read and left to
a review. -/
inductive Basis
  | authoritative
  | derived (excerpt : String)
  | review (excerpt : String)
deriving DecidableEq

structure Reading where
  subject : Subject
  value : Value
  field : FieldAddress
  basis : Basis
  attributeKind : Option AttributeKind := none
  unit : Option String := none
  requiresCorrection : Bool := false
deriving DecidableEq

def Basis.excerpt : Basis → Option String
  | authoritative => none
  | derived excerpt | review excerpt => some excerpt

def Basis.state : Basis → CandidateState
  | authoritative | derived _ => .accepted
  | review _ => .reviewRequired

def Basis.authority : Basis → FactAuthority
  | authoritative => .authoritative
  | derived _ | review _ => .derived

def Basis.confidence : Basis → FactConfidence
  | authoritative => .authoritative
  | derived _ => .high
  | review _ => .reviewRequired

def Basis.reviewState : Basis → ReviewState
  | authoritative => .notRequired
  | derived _ => .confirmed
  | review _ => .reviewRequired

/-- `_authoritative`, `_derived` and `_review`. -/
def Reading.fact (reading : Reading) : Except ValueError (Made SemanticFact) := do
  let reference ← make { field := reading.field.text, excerpt := reading.basis.excerpt }
  make
    { value := reading.value
      authority := reading.basis.authority
      confidence := reading.basis.confidence
      reviewState := reading.basis.reviewState
      provenance := [reference] }

def Reading.propose (reading : Reading) :
    Except ValueError (Made CandidateProposal × CandidateState) := do
  let fact ← reading.fact
  let proposal ← make
    { target := reading.subject.target
      fact := fact
      attributeKind := reading.attributeKind
      unit := reading.unit
      requiresCorrection := reading.requiresCorrection }
  return (proposal, reading.basis.state)

/-- `_AVAILABILITY`. -/
def availabilityState : SourceAvailability → ValueState
  | .inStock => .true
  | .outOfStock => .false
  | .unknown => .unknown

/-- A field of a variant in its document. -/
def variantField (externalId sku : String) (field : VariantField) : FieldAddress :=
  .product externalId (.variant sku field)

def titleReading (product : SourceProduct) : Reading where
  subject := .product product.externalId .title
  value := .text product.title
  field := .product product.externalId .title
  basis := .authoritative

def categoryReading (product : SourceProduct) : Option Reading :=
  product.category.map fun category =>
    { subject := .product product.externalId .category
      value := .text category
      field := .product product.externalId .category
      basis := .authoritative }

def priceReading (externalId : String) (variant : SourceVariant) : Reading where
  subject := .variant variant.sku .price
  value := .price variant.priceAmountMinor variant.currency
  field := variantField externalId variant.sku .priceAmountMinor
  basis := .authoritative

/-- `_availability`. -/
def availabilityReading (externalId : String) (variant : SourceVariant) : Reading where
  subject := .variant variant.sku .availability
  value := .text (availabilityState variant.availability).value
  field := variantField externalId variant.sku
    (if variant.inventoryQuantity.isNone then .availability else .inventoryQuantity)
  basis := .authoritative

section Text

variable [CharacterTables]

def isDecimal : Char → Bool :=
  CharacterTables.isDecimal

def colorReading (externalId : String) (variant : SourceVariant) : Option Reading :=
  match variant.merchantMetadata.get? "finish" with
  | some (.text finish) =>
      if isBlank finish || instructionLike finish then none
      else
        some
          { subject := .variant variant.sku (.feature "color")
            value := .text (lower finish)
            field := variantField externalId variant.sku (.metadata "finish")
            basis := .authoritative
            attributeKind := some .text }
  | _ => none

/-- `\s*(\d+)\s*m\s*`. -/
def lengthPattern : Pattern :=
  .sequence
    [.many isSpace 0 none, .group (.many isDecimal 1 none), .many isSpace 0 none,
      .char (ignoringCase 'm'), .many isSpace 0 none]

/-- The number in the first group of a match. -/
def groupNumber (found : Match) : Nat :=
  parseInt (found.groups.headD [])

def lengthReading (externalId : String) (variant : SourceVariant) : Option Reading :=
  variant.label.bind fun label =>
    (fullMatch lengthPattern label).map fun found =>
      { subject := .variant variant.sku (.feature "length")
        value := .integer (groupNumber found)
        field := variantField externalId variant.sku .label
        basis := .derived (String.ofList (stripChars found.text))
        attributeKind := some .measurement
        unit := some "m" }

def variantReadings (externalId : String) (variant : SourceVariant) : List Reading :=
  priceReading externalId variant :: availabilityReading externalId variant ::
    (colorReading externalId variant).toList ++ (lengthReading externalId variant).toList

/-! ## Prose -/

/-- `\b(not|no|without|never)\b`. -/
def negationPattern : Pattern :=
  .sequence
    [.boundary,
      .group (.oneOf (["not", "no", "without", "never"].map wordIgnoringCase)), .boundary]

/-- `\b(\d{1,4})\s*W\b`. -/
def wattagePattern : Pattern :=
  .sequence
    [.boundary, .group (.many isDecimal 1 (some 4)), .many isSpace 0 none,
      .char (ignoringCase 'w'), .boundary]

/-- `[ -]`. -/
def isJoint (char : Char) : Bool :=
  char == ' ' || char == '-'

/-- `\b(\d+|two|three|four)[ -]port\b`. -/
def portsPattern : Pattern :=
  .sequence
    [.boundary,
      .group (.oneOf
        (.many isDecimal 1 none :: ["two", "three", "four"].map wordIgnoringCase)),
      .char isJoint, wordIgnoringCase "port", .boundary]

/-- `\bUSB[ -]?PD\b`. -/
def powerDeliveryPattern : Pattern :=
  .sequence
    [.boundary, wordIgnoringCase "usb", .many isJoint 0 (some 1), wordIgnoringCase "pd", .boundary]

/-- `USB-C\s+to\s+USB-C`. -/
def cablePattern : Pattern :=
  .sequence
    [wordIgnoringCase "usb-c", .many isSpace 1 none, wordIgnoringCase "to", .many isSpace 1 none,
      wordIgnoringCase "usb-c"]

/-- `\b(one|1)[ -]year\b`. -/
def yearPattern : Pattern :=
  .sequence
    [.boundary, .group (.oneOf [wordIgnoringCase "one", .char (· == '1')]), .char isJoint,
      wordIgnoringCase "year", .boundary]

/-- The texts of a product that are read, with their fields. -/
def textFields (product : SourceProduct) : List (ProductField × String) :=
  (.title, product.title) ::
    (product.description.map fun text => (ProductField.description, text)).toList

/-- Nothing is read where a text addresses its reader or denies something. -/
def isUnread (product : SourceProduct) : Bool :=
  (textFields product).any (fun field => instructionLike field.2) ||
    (textFields product).any fun field => (search negationPattern field.2).isSome

/-- The wattages that the texts state, from left to right, with the field of each. -/
def wattages (product : SourceProduct) : List (ProductField × Match) :=
  (textFields product).flatMap fun field =>
    (findAll wattagePattern field.2).map fun found => (field.1, found)

/-- The same reading for every variant of a product. -/
def forVariants (product : SourceProduct) (reading : String → Reading) : List Reading :=
  product.variants.map fun variant => reading variant.fields.sku

/-- One wattage is read, and a conflict is left to a review. -/
def wattageReadings (product : SourceProduct) : List Reading :=
  match wattages product with
  | [] => []
  | (field, found) :: others =>
      if others.all fun other => groupNumber other.2 = groupNumber found then
        forVariants product fun sku =>
          { subject := .variant sku (.feature "wattage")
            value := .integer (groupNumber found)
            field := .product product.externalId field
            basis := .derived (String.ofList found.text)
            attributeKind := some .measurement
            unit := some "W" }
      else
        forVariants product fun sku =>
          { subject := .variant sku (.feature "wattage")
            value := .integer 0
            field := .product product.externalId field
            basis := .review (String.ofList found.text)
            attributeKind := some .measurement
            unit := some "W"
            requiresCorrection := true }

/-- The number of ports, in digits or as a word. -/
def portCount (found : Match) : Nat :=
  match String.ofList ((found.groups.headD []).map Char.toLower) with
  | "two" => 2
  | "three" => 3
  | "four" => 4
  | _ => groupNumber found

def portReadings (product : SourceProduct) : List Reading :=
  match product.description.bind (search portsPattern) with
  | none => []
  | some found =>
      forVariants product fun sku =>
        { subject := .variant sku (.feature "ports")
          value := .integer (portCount found)
          field := .product product.externalId .description
          basis := .derived (String.ofList found.text)
          attributeKind := some .integer }

/-- The text fields, joined by spaces. -/
def joinedText (product : SourceProduct) : String :=
  String.intercalate " " ((textFields product).map Prod.snd)

/-- The last text field of a product. -/
def lastTextField (product : SourceProduct) : ProductField × String :=
  match product.description with
  | some text => (.description, text)
  | none => (.title, product.title)

def connectorReadings (product : SourceProduct) : List Reading :=
  if (search powerDeliveryPattern (joinedText product)).isSome then
    match search powerDeliveryPattern (lastTextField product).2 with
    | none => []
    | some found =>
        forVariants product fun sku =>
          { subject := .variant sku (.compatibility "usb-c-pd")
            value := .text ValueState.true.value
            field := .product product.externalId (lastTextField product).1
            basis := .review (String.ofList found.text) }
  else if (search cablePattern (joinedText product)).isSome then
    match search cablePattern product.title with
    | none => []
    | some found =>
        forVariants product fun sku =>
          { subject := .variant sku (.compatibility "usb-c")
            value := .text ValueState.true.value
            field := .product product.externalId .title
            basis := .derived (String.ofList found.text) }
  else []

/-- `_semantic_product`. -/
def semanticReadings (product : SourceProduct) : List Reading :=
  if isUnread product then []
  else wattageReadings product ++ portReadings product ++ connectorReadings product

def productReadings (product : SourceProduct) : List Reading :=
  titleReading product :: (categoryReading product).toList ++
    (product.variants.flatMap fun variant =>
      variantReadings product.externalId variant.fields) ++ semanticReadings product

def warrantyReadings (source : MerchantSourceDefinition) : List Reading :=
  match source.policyText.get? "warranty" with
  | none => []
  | some warranty =>
      match search yearPattern warranty with
      | none => []
      | some found =>
          if instructionLike warranty then []
          else
            [{ subject := .policy "warranty_months"
               value := .integer 12
               field := .policy "warranty"
               basis := .derived (String.ofList found.text)
               attributeKind := some .integer }]

def readings (source : MerchantSourceDefinition) : List Reading :=
  (source.products.flatMap fun product => productReadings product.fields) ++
    warrantyReadings source

/-- `extract`. -/
def extract (source : MerchantSourceDefinition) :
    Except ValueError (List (Made CandidateProposal × CandidateState)) :=
  (readings source).mapM Reading.propose

/-- `_validate_candidates`, on one candidate. -/
def validateCandidate (source : MerchantSourceDefinition)
    (candidate : Made CandidateProposal × CandidateState) : Except ValueError Unit :=
  let fact := candidate.1.fields.fact.fields
  if candidate.2 = .reviewRequired ∧ fact.reviewState ≠ .reviewRequired then
    .error { message := "review-required candidate must retain review-required fact state" }
  else if candidate.2 = .accepted ∧ fact.reviewState = .reviewRequired then
    .error { message := "review-required fact cannot be automatically accepted" }
  else
    fact.provenance.forM fun reference =>
      match (sourceFields source).get? reference.fields.field with
      | none => .error { message := "candidate provenance does not name a source field" }
      | some text =>
          if reference.fields.excerpt.any fun excerpt =>
              maxExcerptLength < excerpt.length || !decide (excerpt.toList <:+: text.toList) then
            .error { message := "candidate provenance excerpt is not present in the source" }
          else .ok ()

/-- `_validate_candidates`. -/
def validateCandidates (source : MerchantSourceDefinition)
    (candidates : List (Made CandidateProposal × CandidateState)) : Except ValueError Unit :=
  candidates.forM (validateCandidate source)

end Text

end AgentRank.Compiler
