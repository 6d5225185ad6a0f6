import AgentRank.Representation.Fields

/-!
# What a merchant may submit

This module models the request models of `representation/schemas.py`: the bounds on a
submitted document, and the source document that the server makes of it.
-/

namespace AgentRank.Representation

open Constraints Relational Store Text

def maxProducts : Nat := 50
def maxVariantsPerProduct : Nat := 25
def maxTotalVariants : Nat := 250
def maxPolicyEntries : Nat := 20
def maxMetadataEntries : Nat := 20
def maxTitleLength : Nat := 200
def maxDescriptionLength : Nat := 2000
def maxCategoryLength : Nat := 64
def maxLabelLength : Nat := 64
def maxMetadataValueLength : Nat := 500
def maxPolicyBodyLength : Nat := 4000
def maxPriceAmountMinor : Int := 10 ^ 12
def maxInventoryQuantity : Int := 10 ^ 7
def maxMetadataInteger : Int := 10 ^ 12

/-- `MetadataValue`. -/
inductive MetadataInput
  | text (text : String)
  | integer (value : Int)
  | boolean (value : Bool)
deriving DecidableEq

def MetadataInput.domain : MetadataInput → Value
  | text written => .text written
  | integer value => .integer value
  | boolean value => .boolean value

structure SourceVariantInput where
  sku : String
  label : Option String
  priceAmountMinor : Int
  currency : String
  availability : Option SourceAvailability
  inventoryQuantity : Option Int
  merchantMetadata : Mapping MetadataInput
deriving DecidableEq

structure SourceProductInput where
  externalId : String
  title : String
  description : Option String
  category : Option String
  variants : List SourceVariantInput
  merchantMetadata : Mapping MetadataInput
deriving DecidableEq

structure SourceDocumentInput where
  products : List SourceProductInput
  policyText : Mapping String
deriving DecidableEq

section Validation

variable [CharacterTables]

/-- A string of at most so many characters that does not address its reader. -/
def isPlainText (bound : Nat) (text : String) : Bool :=
  text.length ≤ bound && !instructionLike text

/-- `_bounded_map`, on one entry. -/
def isBoundedEntry (bound : Nat) (name : String) : MetadataInput → Bool
  | .text text => isIdentifier name && isPlainText bound text
  | .integer value => isIdentifier name && value.natAbs ≤ maxMetadataInteger.natAbs
  | .boolean _ => isIdentifier name

def isBoundedMetadata (metadata : Mapping MetadataInput) : Bool :=
  metadata.entries.length ≤ maxMetadataEntries &&
    metadata.entries.all fun entry => isBoundedEntry maxMetadataValueLength entry.1 entry.2

/-- `read_availability`, on a state that is one of the three. -/
def readAvailability (quantity : Option Int) (stated : Option SourceAvailability)
    (place : String) : Except ValueError SourceAvailability :=
  match quantity with
  | none =>
      match stated with
      | none =>
          .error { message := s!"{place} states neither a stock quantity nor an availability" }
      | some availability => .ok availability
  | some quantity =>
      if stated.any fun availability => availability ≠ availabilityOf quantity then
        .error
          { message := s!"{place} states an availability its own stock quantity contradicts" }
      else .ok (availabilityOf quantity)

def SourceVariantInput.availabilityRead (variant : SourceVariantInput) :
    Except ValueError SourceAvailability :=
  readAvailability variant.inventoryQuantity variant.availability s!"variant '{variant.sku}'"

def SourceVariantInput.isValid (variant : SourceVariantInput) : Bool :=
  isIdentifier variant.sku && variant.label.all (isPlainText maxLabelLength) &&
    (0 ≤ variant.priceAmountMinor && variant.priceAmountMinor ≤ maxPriceAmountMinor) &&
    isCurrencyCode variant.currency &&
    (variant.inventoryQuantity.all fun quantity =>
      0 ≤ quantity && quantity ≤ maxInventoryQuantity) &&
    isBoundedMetadata variant.merchantMetadata && variant.availabilityRead.isOk

def SourceProductInput.isValid (product : SourceProductInput) : Bool :=
  isIdentifier product.externalId &&
    (1 ≤ product.title.length && isPlainText maxTitleLength product.title) &&
    product.description.all (isPlainText maxDescriptionLength) &&
    product.category.all (isPlainText maxCategoryLength) &&
    (1 ≤ product.variants.length && product.variants.length ≤ maxVariantsPerProduct) &&
    product.variants.all SourceVariantInput.isValid && isBoundedMetadata product.merchantMetadata

/-- A document validates. -/
def SourceDocumentInput.isValid (document : SourceDocumentInput) : Bool :=
  (1 ≤ document.products.length && document.products.length ≤ maxProducts) &&
    document.products.all SourceProductInput.isValid &&
    (document.products.map fun product => product.variants.length).sum ≤ maxTotalVariants &&
    document.policyText.entries.length ≤ maxPolicyEntries &&
    document.policyText.entries.all fun entry =>
      isIdentifier entry.1 && isPlainText maxPolicyBodyLength entry.2 && !isBlank entry.2

end Validation

def SourceVariantInput.domain (variant : SourceVariantInput) :
    Except ValueError (Made SourceVariant) := do
  let availability ← variant.availabilityRead
  make
    { sku := variant.sku
      label := variant.label
      priceAmountMinor := variant.priceAmountMinor
      currency := variant.currency
      availability := availability
      inventoryQuantity := variant.inventoryQuantity
      merchantMetadata := variant.merchantMetadata.map MetadataInput.domain }

def SourceProductInput.domain (product : SourceProductInput) :
    Except ValueError (Made SourceProduct) := do
  let variants ← product.variants.mapM SourceVariantInput.domain
  make
    { externalId := product.externalId
      title := product.title
      description := product.description
      category := product.category
      variants := variants
      merchantMetadata := product.merchantMetadata.map MetadataInput.domain }

/-- `SourceDocumentInput.definition`. -/
def SourceDocumentInput.definition (document : SourceDocumentInput) (key : String)
    (version : Int) (merchantSlug : String) :
    Except ValueError (Made MerchantSourceDefinition) := do
  let products ← document.products.mapM SourceProductInput.domain
  make
    { key := key
      version := version
      merchantSlug := merchantSlug
      products := products
      policyText := document.policyText }

section Accepted

variable [CharacterTables]

/-- A variant as the intake accepts it. -/
structure AcceptedVariant (variant : SourceVariant) : Prop where
  sku : isIdentifier variant.sku = true
  label : variant.label.all (isPlainText maxLabelLength) = true

/-- A product as the intake accepts it. -/
structure AcceptedProduct (product : SourceProduct) : Prop where
  externalId : isIdentifier product.externalId = true
  title : isPlainText maxTitleLength product.title = true
  description : product.description.all (isPlainText maxDescriptionLength) = true
  variants : ∀ variant ∈ product.variants, AcceptedVariant variant.fields

/-- A source document that was made of a submission that validates. -/
def AcceptedSource (source : Made MerchantSourceDefinition) : Prop :=
  ∃ document : SourceDocumentInput, document.isValid = true ∧
    ∃ key version merchantSlug, document.definition key version merchantSlug = .ok source

theorem acceptedVariant_of_domain {variant : SourceVariantInput} {made : Made SourceVariant}
    (valid : variant.isValid = true) (isMade : variant.domain = .ok made) :
    AcceptedVariant made.fields := by
  obtain ⟨availability, _, isMade⟩ := except_bind_eq_ok_iff.mp isMade
  simp only [SourceVariantInput.isValid, Bool.and_eq_true] at valid
  rw [fields_of_make isMade]
  exact ⟨valid.1.1.1.1.1.1, valid.1.1.1.1.1.2⟩

theorem acceptedProduct_of_domain {product : SourceProductInput} {made : Made SourceProduct}
    (valid : product.isValid = true) (isMade : product.domain = .ok made) :
    AcceptedProduct made.fields := by
  obtain ⟨variants, variantsMade, isMade⟩ := except_bind_eq_ok_iff.mp isMade
  simp only [SourceProductInput.isValid, Bool.and_eq_true, List.all_eq_true] at valid
  rw [fields_of_make isMade]
  refine ⟨valid.1.1.1.1.1.1, valid.1.1.1.1.1.2.2, valid.1.1.1.1.2, ?_⟩
  intro variant member
  obtain ⟨input, inputMem, inputMade⟩ := exists_of_mem_mapM variantsMade member
  exact acceptedVariant_of_domain (valid.1.2 input inputMem) inputMade

theorem AcceptedSource.products {source : Made MerchantSourceDefinition}
    (accepted : AcceptedSource source) {product : Made SourceProduct}
    (member : product ∈ source.fields.products) : AcceptedProduct product.fields := by
  obtain ⟨document, valid, key, version, merchantSlug, isMade⟩ := accepted
  obtain ⟨products, productsMade, isMade⟩ := except_bind_eq_ok_iff.mp isMade
  simp only [SourceDocumentInput.isValid, Bool.and_eq_true, List.all_eq_true] at valid
  rw [fields_of_make isMade] at member
  obtain ⟨input, inputMem, inputMade⟩ := exists_of_mem_mapM productsMade member
  exact acceptedProduct_of_domain (valid.1.1.1.2 input inputMem) inputMade

/-- The identifiers of an accepted document are plain. -/
theorem AcceptedSource.plain {source : Made MerchantSourceDefinition}
    (accepted : AcceptedSource source) : PlainIdentifiers source.fields where
  externalIds externalId member := by
    rcases List.mem_map.mp member with ⟨product, productMem, rfl⟩
    exact isPlain_of_isIdentifier (accepted.products productMem).externalId
  skus sku member := by
    rcases List.mem_map.mp member with ⟨variant, variantMem, rfl⟩
    obtain ⟨product, productMem, variantMem⟩ := mem_variants_iff.mp variantMem
    exact isPlain_of_isIdentifier ((accepted.products productMem).variants variant variantMem).sku

end Accepted

end AgentRank.Representation
