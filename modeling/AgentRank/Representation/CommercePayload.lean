import AgentRank.Representation.Definitions

/-!
# The payload of a Commerce IR document

This module models the `payload` methods of the Commerce IR in `representation/definitions.py`:
the JSON document that a representation is stored as.
-/

namespace AgentRank.Representation

open Constraints Store

def FactAuthority.value : FactAuthority → String
  | authoritative => "AUTHORITATIVE"
  | derived => "DERIVED"

def FactConfidence.value : FactConfidence → String
  | authoritative => "AUTHORITATIVE"
  | high => "HIGH"
  | reviewRequired => "REVIEW_REQUIRED"

def ReviewState.value : ReviewState → String
  | notRequired => "NOT_REQUIRED"
  | reviewRequired => "REVIEW_REQUIRED"
  | confirmed => "CONFIRMED"
  | rejected => "REJECTED"

def AttributeKind.value : AttributeKind → String
  | text => "TEXT"
  | integer => "INTEGER"
  | boolean => "BOOLEAN"
  | measurement => "MEASUREMENT"

def RepresentationProducer.value : RepresentationProducer → String
  | manualFixture => "MANUAL_FIXTURE"
  | compiler => "COMPILER"

def whole (value : Int) : Json :=
  .scalar (.number (.finite value))

/-- The JSON values that the definitions keep as their text. -/
class OpaqueValues where
  read : String → Json

variable [OpaqueValues]

def Value.json : Value → Json
  | null => .null
  | text value => Payload.text value
  | integer value => whole value
  | boolean value => .scalar (.boolean value)
  | price amountMinor currency =>
      .object [("amount_minor", whole amountMinor), ("currency", Payload.text currency)]
  | other json => OpaqueValues.read json

def SourceReference.json (reference : SourceReference) : Json :=
  .object
    [("field", Payload.text reference.field), ("excerpt", Payload.optionalText reference.excerpt)]

def SemanticFact.json (fact : SemanticFact) : Json :=
  .object
    [("value", fact.value.json), ("authority", Payload.text fact.authority.value),
      ("confidence", Payload.text fact.confidence.value),
      ("review_state", Payload.text fact.reviewState.value),
      ("provenance", .array (fact.provenance.map fun reference => reference.fields.json))]

def CommerceAttribute.json (stated : CommerceAttribute) : Json :=
  .object
    [("key", Payload.text stated.key), ("kind", Payload.text stated.kind.value),
      ("unit", Payload.optionalText stated.unit), ("fact", stated.fact.fields.json)]

def factsJson (facts : List (String × Made SemanticFact)) : Json :=
  .object (facts.map fun entry => (entry.1, entry.2.fields.json))

def CommerceVariant.json (variant : CommerceVariant) : Json :=
  .object
    [("sku", Payload.text variant.sku), ("label", Payload.optionalText variant.label),
      ("price", variant.price.fields.json), ("availability", variant.availability.fields.json),
      ("attributes", .array (variant.attributes.map fun stated => stated.fields.json)),
      ("compatibility", factsJson variant.compatibility.entries)]

def CommerceProduct.json (product : CommerceProduct) : Json :=
  .object
    [("external_id", Payload.text product.externalId), ("title", product.title.fields.json),
      ("category", product.category.elim .null fun fact => fact.fields.json),
      ("variants", .array (product.variants.map fun variant => variant.fields.json)),
      ("policy_facts", factsJson product.policyFacts.entries)]

/-- `CommerceIRDefinition.payload`. -/
def CommerceIRDefinition.json (definition : CommerceIRDefinition) : Json :=
  .object
    [("source_key", Payload.text definition.sourceKey),
      ("source_version", whole definition.sourceVersion),
      ("source_hash", Payload.text definition.sourceHash.text),
      ("producer", Payload.text definition.producer.value),
      ("producer_version", Payload.text definition.producerVersion),
      ("products", .array (definition.products.map fun product => product.fields.json))]

end AgentRank.Representation
