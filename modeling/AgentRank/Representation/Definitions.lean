import AgentRank.Benchmark.Definitions
import AgentRank.Relational.Mapping
import AgentRank.Store.Dataclass
import AgentRank.Text.Pattern

/-!
# Merchant sources and Commerce IR

This module models `representation/definitions.py`: the document that a merchant supplied,
the facts that are read from it, and the agent-facing representation that holds them.  What a
constructor refuses is its `refusal`, in the order in which the checks are made.
-/

namespace AgentRank.Representation

open Benchmark Constraints Relational Store Text

inductive FactAuthority
  | authoritative
  | derived
deriving DecidableEq

inductive FactConfidence
  | authoritative
  | high
  | reviewRequired
deriving DecidableEq

inductive ReviewState
  | notRequired
  | reviewRequired
  | confirmed
  | rejected
deriving DecidableEq

inductive ValueState
  | true
  | false
  | unknown
  | notApplicable
deriving DecidableEq

def ValueState.value : ValueState → String
  | true => "TRUE"
  | false => "FALSE"
  | unknown => "UNKNOWN"
  | notApplicable => "NOT_APPLICABLE"

def valueStates : List String :=
  [ValueState.true, .false, .unknown, .notApplicable].map ValueState.value

inductive SourceAvailability
  | inStock
  | outOfStock
  | unknown
deriving DecidableEq

def SourceAvailability.value : SourceAvailability → String
  | inStock => "IN_STOCK"
  | outOfStock => "OUT_OF_STOCK"
  | unknown => "UNKNOWN"

inductive AttributeKind
  | text
  | integer
  | boolean
  | measurement
deriving DecidableEq

inductive RepresentationProducer
  | manualFixture
  | compiler
deriving DecidableEq

/-- A JSON value that a fact or a metadata entry holds.  The values that no check tells apart
are kept as their text. -/
inductive Value
  | null
  | text (text : String)
  | integer (value : Int)
  | boolean (value : Bool)
  | price (amountMinor : Int) (currency : String)
  | other (json : String)
deriving DecidableEq

/-- A content hash: the name of the algorithm and sixty four hexadecimal digits. -/
structure ContentHash where
  text : String
  isLabelled : "sha256:".isPrefixOf text = true
  length : text.length = 71
deriving DecidableEq

@[ext]
theorem ContentHash.ext {first second : ContentHash} (same : first.text = second.text) :
    first = second := by
  cases first
  cases second
  cases same
  rfl

/-- The first of some checks that fails. -/
def firstRefusal : List (Bool × String) → Option ValueError
  | [] => none
  | (fails, message) :: rest => if fails then some { message := message } else firstRefusal rest

@[simp]
theorem firstRefusal_eq_none_iff {checks : List (Bool × String)} :
    firstRefusal checks = none ↔ ∀ check ∈ checks, check.1 = false := by
  induction checks with
  | nil => simp [firstRefusal]
  | cons check rest ih =>
      obtain ⟨fails, message⟩ := check
      cases fails <;> simp [firstRefusal, ih]

structure SourceReference where
  field : String
  excerpt : Option String := none
deriving DecidableEq

instance : Dataclass SourceReference where
  refusal reference :=
    firstRefusal
      [(isBlank reference.field, "provenance field must not be blank"),
        (reference.excerpt.any isBlank, "provenance excerpt must not be blank")]

structure SemanticFact where
  value : Value
  authority : FactAuthority
  confidence : FactConfidence
  reviewState : ReviewState
  provenance : List (Made SourceReference)
deriving DecidableEq

instance : Dataclass SemanticFact where
  refusal fact :=
    firstRefusal
      [(fact.provenance.isEmpty, "every Commerce IR fact must have merchant provenance"),
        (fact.authority = .authoritative && fact.confidence != .authoritative,
          "authoritative facts require authoritative confidence"),
        (fact.authority = .authoritative && fact.reviewState != .notRequired,
          "authoritative facts cannot carry review workflow state"),
        (fact.authority != .authoritative && fact.confidence = .authoritative,
          "derived facts cannot claim authoritative confidence"),
        (fact.confidence = .reviewRequired && fact.reviewState != .reviewRequired,
          "review-required confidence must be marked review required"),
        (fact.reviewState = .reviewRequired && fact.confidence != .reviewRequired,
          "review-required state needs review-required confidence")]

structure CommerceAttribute where
  key : String
  kind : AttributeKind
  fact : Made SemanticFact
  unit : Option String := none
deriving DecidableEq

/-- The value of an attribute is of its kind. -/
def AttributeKind.holds : AttributeKind → Value → Bool
  | text, .text _ | integer, .integer _ | boolean, .boolean _ | measurement, .integer _ => true
  | _, _ => false

def AttributeKind.refusalText : AttributeKind → String
  | text => "text attribute requires a string"
  | integer => "integer attribute requires an integer"
  | boolean => "boolean attribute requires a boolean"
  | measurement => "measurement attribute requires an integer value and unit"

instance : Dataclass CommerceAttribute where
  refusal stated :=
    firstRefusal
      [(isBlank stated.key, "attribute key must not be blank"),
        (!stated.kind.holds stated.fact.fields.value, stated.kind.refusalText),
        (stated.kind = .measurement && stated.unit.all isBlank,
          AttributeKind.refusalText .measurement),
        (stated.kind != .measurement && stated.unit.isSome,
          "only measurement attributes may carry a unit")]

/-! ## The source document -/

/-- `availability_of`. -/
def availabilityOf (quantity : Int) : SourceAvailability :=
  if quantity = 0 then .outOfStock else .inStock

structure SourceVariant where
  sku : String
  label : Option String
  priceAmountMinor : Int
  currency : String
  availability : SourceAvailability
  inventoryQuantity : Option Int
  merchantMetadata : Mapping Value
deriving DecidableEq

instance : Dataclass SourceVariant where
  refusal variant :=
    firstRefusal
      [(isBlank variant.sku || decide (variant.priceAmountMinor < 0),
          "source variant has an invalid identity or price"),
        (variant.inventoryQuantity.any (· < 0), "source variant inventory must not be negative"),
        (!isCurrencyCode variant.currency, "source variant currency must be ISO 4217"),
        (variant.inventoryQuantity.any fun quantity =>
            variant.availability ≠ availabilityOf quantity,
          "source variant availability contradicts the exact quantity beside it"),
        (variant.inventoryQuantity.isNone && variant.availability = .outOfStock,
          "an out of stock source variant states a quantity of zero")]

structure SourceProduct where
  externalId : String
  title : String
  description : Option String
  category : Option String
  variants : List (Made SourceVariant)
  merchantMetadata : Mapping Value
deriving DecidableEq

instance : Dataclass SourceProduct where
  refusal product :=
    firstRefusal
      [(isBlank product.externalId || isBlank product.title || product.variants.isEmpty,
        "source product needs identity, title and a variant")]

/-- `validate_key`. -/
def keyRefusal (value label : String) : Option ValueError :=
  if maxKeyLength < value.length then
    some { message := s!"{label} must be at most {maxKeyLength} characters" }
  else if isKey value then none
  else
    some
      { message := s!"{label} must match ^[a-z0-9]+(-[a-z0-9]+)*$, got "
        got := some (.string value) }

structure MerchantSourceDefinition where
  key : String
  version : Int
  merchantSlug : String
  products : List (Made SourceProduct)
  policyText : Mapping String
deriving DecidableEq

namespace MerchantSourceDefinition

/-- The variants of every product, in their order. -/
def variants (source : MerchantSourceDefinition) : List (Made SourceVariant) :=
  source.products.flatMap fun product => product.fields.variants

def externalIds (source : MerchantSourceDefinition) : List String :=
  source.products.map fun product => product.fields.externalId

def skus (source : MerchantSourceDefinition) : List String :=
  source.variants.map fun variant => variant.fields.sku

end MerchantSourceDefinition

instance : Dataclass MerchantSourceDefinition where
  refusal source :=
    (keyRefusal source.key "source key").or <|
      (keyRefusal source.merchantSlug "merchant slug").or <|
        firstRefusal
          [(source.version < 1 || source.products.isEmpty,
              "source version must be positive and source must include products"),
            (!(decide source.externalIds.Nodup) || !(decide source.skus.Nodup),
              "source product identifiers and SKUs must be unique"),
            (source.policyText.entries.any fun entry => isBlank entry.1 || isBlank entry.2,
              "source policy text must have nonblank names and bodies")]

/-- What a source document relies on. -/
structure SourceSound (source : MerchantSourceDefinition) : Prop where
  key : keyRefusal source.key "source key" = none
  merchantSlug : keyRefusal source.merchantSlug "merchant slug" = none
  version : 1 ≤ source.version
  products : source.products ≠ []
  externalIds : source.externalIds.Nodup
  skus : source.skus.Nodup
  policyText : ∀ entry ∈ source.policyText.entries,
    isBlank entry.1 = false ∧ isBlank entry.2 = false

theorem sourceSound_iff {source : MerchantSourceDefinition} :
    Dataclass.refusal source = none ↔ SourceSound source := by
  have unfolded : Dataclass.refusal source = none ↔
      keyRefusal source.key "source key" = none ∧
        keyRefusal source.merchantSlug "merchant slug" = none ∧
        (1 ≤ source.version ∧ source.products ≠ []) ∧
        (source.externalIds.Nodup ∧ source.skus.Nodup) ∧
        ∀ entry ∈ source.policyText.entries,
          isBlank entry.1 = false ∧ isBlank entry.2 = false := by
    simp [Dataclass.refusal, Option.or_eq_none_iff]
  rw [unfolded]
  constructor
  · rintro ⟨key, slug, ⟨version, products⟩, ⟨externalIds, skus⟩, policyText⟩
    exact ⟨key, slug, version, products, externalIds, skus, policyText⟩
  · rintro ⟨key, slug, version, products, externalIds, skus, policyText⟩
    exact ⟨key, slug, ⟨version, products⟩, ⟨externalIds, skus⟩, policyText⟩

structure CommerceVariant where
  sku : String
  label : Option String
  price : Made SemanticFact
  availability : Made SemanticFact
  attributes : List (Made CommerceAttribute)
  compatibility : Mapping (Made SemanticFact)
deriving DecidableEq

/-- A fact holds one of the four states. -/
def isValueState : Value → Bool
  | .text text => valueStates.contains text
  | _ => false

instance : Dataclass CommerceVariant where
  refusal variant :=
    firstRefusal
      [(isBlank variant.sku, "Commerce IR variant SKU must not be blank"),
        (!(decide (variant.attributes.map fun stated => stated.fields.key).Nodup),
          "Commerce IR attribute keys must be unique per variant"),
        (!isValueState variant.availability.fields.value,
          "a Commerce IR availability fact must use a four-state value"),
        (variant.compatibility.entries.any fun entry => !isValueState entry.2.fields.value,
          "compatibility facts must use a four-state value")]

structure CommerceProduct where
  externalId : String
  title : Made SemanticFact
  category : Option (Made SemanticFact)
  variants : List (Made CommerceVariant)
  policyFacts : Mapping (Made SemanticFact)
deriving DecidableEq

instance : Dataclass CommerceProduct where
  refusal product :=
    firstRefusal
      [(isBlank product.externalId || product.variants.isEmpty,
        "Commerce IR product needs identity and variants")]

def maxProducerVersionLength : Nat := 128

structure CommerceIRDefinition where
  sourceKey : String
  sourceVersion : Int
  sourceHash : ContentHash
  producer : RepresentationProducer
  producerVersion : String
  products : List (Made CommerceProduct)
deriving DecidableEq

namespace CommerceIRDefinition

def externalIds (definition : CommerceIRDefinition) : List String :=
  definition.products.map fun product => product.fields.externalId

def skus (definition : CommerceIRDefinition) : List String :=
  definition.products.flatMap fun product => product.fields.variants.map fun variant =>
    variant.fields.sku

end CommerceIRDefinition

instance : Dataclass CommerceIRDefinition where
  refusal definition :=
    (keyRefusal definition.sourceKey "source key").or <|
      firstRefusal
        [(decide (definition.sourceVersion < 1), "Commerce IR must name a valid source identity"),
          (isBlank definition.producerVersion || definition.products.isEmpty,
            "Commerce IR needs a producer version and products"),
          (decide (maxProducerVersionLength < definition.producerVersion.length),
            "Commerce IR producer version is too long"),
          (!(decide definition.externalIds.Nodup) || !(decide definition.skus.Nodup),
            "Commerce IR product identities and SKUs must be unique")]

section Instructions

variable [CharacterTables]

/-- `_INSTRUCTION_LIKE`. -/
def instructionPattern : Pattern :=
  .sequence
    [.boundary, .group (.oneOf [wordIgnoringCase "ignore", wordIgnoringCase "disregard"]),
      .many isSpace 1 none,
      .optional (.seq (wordIgnoringCase "all") (.many isSpace 1 none)),
      .oneOf [wordIgnoringCase "previous", wordIgnoringCase "compiler", wordIgnoringCase "system"],
      .many isSpace 1 none, wordIgnoringCase "instruction", .many (ignoringCase 's') 0 (some 1),
      .boundary]

/-- `instruction_like`. -/
def instructionLike (text : String) : Bool :=
  (search instructionPattern text).isSome

end Instructions

end AgentRank.Representation
