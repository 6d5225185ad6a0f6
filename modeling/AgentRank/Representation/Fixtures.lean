import AgentRank.Representation.Schemas
import Mathlib.Data.List.Perm.Basic

/-!
# Storing and reading a source document

This module models the payloads of `representation/definitions.py` and the strict readers of
`representation/fixtures.py`.  The database keeps a payload as a JSON value, whose objects come
back with their fields in an order of its own.
-/

namespace AgentRank.Representation

open Constraints Relational Store

/-- A JSON value. -/
inductive Document
  | scalar (value : Value)
  | array (items : List Document)
  | object (fields : List (String × Document))

def optionalText (text : Option String) : Document :=
  .scalar (text.elim .null .text)

def metadataPayload (metadata : Mapping Value) : Document :=
  .object (metadata.entries.map fun entry => (entry.1, .scalar entry.2))

/-- `SourceVariant.payload`: the availability is written only where no quantity says it. -/
def SourceVariant.payload (variant : SourceVariant) : Document :=
  .object
    ([("sku", .scalar (.text variant.sku)), ("label", optionalText variant.label),
      ("price_amount_minor", .scalar (.integer variant.priceAmountMinor)),
      ("currency", .scalar (.text variant.currency)),
      ("inventory_quantity", .scalar (variant.inventoryQuantity.elim .null .integer)),
      ("merchant_metadata", metadataPayload variant.merchantMetadata)] ++
      if variant.inventoryQuantity.isNone then
        [("availability", .scalar (.text variant.availability.value))]
      else [])

def SourceProduct.payload (product : SourceProduct) : Document :=
  .object
    [("external_id", .scalar (.text product.externalId)), ("title", .scalar (.text product.title)),
      ("description", optionalText product.description),
      ("category", optionalText product.category),
      ("variants", .array (product.variants.map fun variant => variant.fields.payload)),
      ("merchant_metadata", metadataPayload product.merchantMetadata)]

def MerchantSourceDefinition.payload (source : MerchantSourceDefinition) : Document :=
  .object
    [("key", .scalar (.text source.key)), ("version", .scalar (.integer source.version)),
      ("merchant_slug", .scalar (.text source.merchantSlug)),
      ("products", .array (source.products.map fun product => product.fields.payload)),
      ("policy_text", .object
        (source.policyText.entries.map fun entry => (entry.1, .scalar (.text entry.2))))]

/-- The digest of the canonical text of a JSON value. -/
class ContentDigest where
  digest : Document → ContentHash

/-- `content_hash`. -/
def MerchantSourceDefinition.contentHash [ContentDigest] (source : MerchantSourceDefinition) :
    ContentHash :=
  ContentDigest.digest source.payload

/-! ## Readers -/

/-- `RepresentationFixtureError`. -/
def fixtureError {α : Type} (message : String) : Except ValueError α :=
  .error { message := message }

abbrev Entry := List (String × Document)

/-- `_only`. -/
def onlyFields (entry : Entry) (allowed : List String) (name : String)
    (optional : List String := []) : Except ValueError Unit :=
  if (entry.all fun field => allowed.contains field.1 || optional.contains field.1) &&
      allowed.all fun key => (entry.lookup key).isSome then .ok ()
  else fixtureError s!"{name} has unsupported or missing fields"

def readObject (value : Option Document) (name : String) : Except ValueError Entry :=
  match value with
  | some (.object fields) => .ok fields
  | _ => fixtureError s!"{name} must be an object"

def readArray (entry : Entry) (name : String) : Except ValueError (List Document) :=
  match entry.lookup name with
  | some (.array items) => .ok items
  | _ => fixtureError s!"{name} must be an array"

def readString (entry : Entry) (name : String) : Except ValueError String :=
  match entry.lookup name with
  | some (.scalar (.text text)) => .ok text
  | _ => fixtureError s!"{name} must be a string"

def readOptionalString (entry : Entry) (name : String) : Except ValueError (Option String) :=
  match entry.lookup name with
  | some (.scalar (.text text)) => .ok (some text)
  | none | some (.scalar .null) => .ok none
  | _ => fixtureError s!"{name} must be a string or null"

def readInteger (entry : Entry) (name : String) : Except ValueError Int :=
  match entry.lookup name with
  | some (.scalar (.integer value)) => .ok value
  | _ => fixtureError s!"{name} must be an integer"

def readNullableInteger (entry : Entry) (name : String) : Except ValueError (Option Int) :=
  match entry.lookup name with
  | none => fixtureError s!"{name} must be present, as an integer or null"
  | some (.scalar .null) => .ok none
  | some (.scalar (.integer value)) => .ok (some value)
  | _ => fixtureError s!"{name} must be an integer or null"

/-- The entries of an object of metadata, with its values as they are. -/
def readMetadata (entry : Entry) : Except ValueError (Mapping Value) := do
  let fields ← readObject (some ((entry.lookup "merchant_metadata").getD (.object [])))
    "merchant metadata"
  return .ofEntries (fields.filterMap fun field =>
    match field.2 with
    | .scalar value => some (field.1, value)
    | _ => none)

/-- `_string_map`. -/
def readStringMap (entry : Entry) (name : String) : Except ValueError (Mapping String) := do
  let fields ← readObject (entry.lookup name) name
  let entries ← fields.mapM fun field =>
    match field.2 with
    | .scalar (.text text) => .ok (field.1, text)
    | _ => fixtureError s!"{name} must map strings to strings"
  return .ofEntries entries

/-- `_availability_member`. -/
def availabilityMember (stated place : String) : Except ValueError SourceAvailability :=
  match stated with
  | "IN_STOCK" => .ok .inStock
  | "OUT_OF_STOCK" => .ok .outOfStock
  | "UNKNOWN" => .ok .unknown
  | _ => .error { message := s!"{place} states an availability AgentRank does not define" }

/-- `read_availability`, on a stored state. -/
def readStoredAvailability (quantity : Option Int) (stated : Option String) (place : String) :
    Except ValueError SourceAvailability := do
  let member ← match stated with
    | none => pure none
    | some text => some <$> availabilityMember text place
  readAvailability quantity member place

/-- `_source_variant`. -/
def parseVariant (value : Document) : Except ValueError (Made SourceVariant) := do
  let entry ← readObject (some value) "source variant"
  onlyFields entry
    ["sku", "label", "price_amount_minor", "currency", "inventory_quantity", "merchant_metadata"]
    "source variant" ["availability"]
  let quantity ← readNullableInteger entry "inventory_quantity"
  let sku ← readString entry "sku"
  let label ← readOptionalString entry "label"
  let priceAmountMinor ← readInteger entry "price_amount_minor"
  let currency ← readString entry "currency"
  let stated ← readOptionalString entry "availability"
  let availability ← readStoredAvailability quantity stated s!"source variant '{sku}'"
  let merchantMetadata ← readMetadata entry
  make
    { sku := sku
      label := label
      priceAmountMinor := priceAmountMinor
      currency := currency
      availability := availability
      inventoryQuantity := quantity
      merchantMetadata := merchantMetadata }

/-- `_source_product`. -/
def parseProduct (value : Document) : Except ValueError (Made SourceProduct) := do
  let entry ← readObject (some value) "source product"
  onlyFields entry
    ["external_id", "title", "description", "category", "variants", "merchant_metadata"]
    "source product"
  let externalId ← readString entry "external_id"
  let title ← readString entry "title"
  let description ← readOptionalString entry "description"
  let category ← readOptionalString entry "category"
  let items ← readArray entry "variants"
  let variants ← items.mapM parseVariant
  let merchantMetadata ← readMetadata entry
  make
    { externalId := externalId
      title := title
      description := description
      category := category
      variants := variants
      merchantMetadata := merchantMetadata }

/-- `parse_source`. -/
def parseSource (value : Document) : Except ValueError (Made MerchantSourceDefinition) := do
  let entry ← readObject (some value) "source"
  onlyFields entry ["key", "version", "merchant_slug", "products", "policy_text"] "source"
  let key ← readString entry "key"
  let version ← readInteger entry "version"
  let merchantSlug ← readString entry "merchant_slug"
  let items ← readArray entry "products"
  let products ← items.mapM parseProduct
  let policyText ← readStringMap entry "policy_text"
  make
    { key := key
      version := version
      merchantSlug := merchantSlug
      products := products
      policyText := policyText }

/-- The fields of an object. -/
def Document.fields : Document → Entry
  | .object fields => fields
  | _ => []

/-- The availability of a variant is read where a payload says it. -/
theorem readStoredAvailability_payload (variant : Made SourceVariant) (place : String) :
    readStoredAvailability variant.fields.inventoryQuantity
      (if variant.fields.inventoryQuantity.isNone then some variant.fields.availability.value
      else none) place = .ok variant.fields.availability := by
  have sound := variant.sound
  simp only [Dataclass.refusal, firstRefusal_eq_none_iff, List.forall_mem_cons] at sound
  cases isQuantity : variant.fields.inventoryQuantity with
  | none => cases variant.fields.availability <;> rfl
  | some quantity =>
      have agrees := sound.2.2.2.1
      simp only [isQuantity, Option.any_some, decide_eq_false_iff_not, not_not] at agrees
      rw [agrees]
      rfl

/-- What an image is rearranged into is an image too. -/
theorem exists_eq_map_of_perm {α β : Type} {change : α → β} {items : List β} {listed : List α}
    (perm : items.Perm (listed.map change)) :
    ∃ rearranged : List α, items = rearranged.map change ∧ rearranged.Perm listed := by
  have composed := congrFun (congrFun (List.eq_map_comp_perm change) items) listed
  exact composed.mpr perm

/-- How the database lists the fields of an object. -/
class FieldOrder where
  reorder : Entry → Entry
  perm : ∀ entry, (reorder entry).Perm entry

theorem perm_id (entry : Entry) : (id entry).Perm entry := .refl entry

section Storage

variable [FieldOrder]

mutual

/-- A JSON value as the database gives it back. -/
def Document.stored : Document → Document
  | .scalar value => .scalar value
  | .array items => .array (storedItems items)
  | .object fields => .object (FieldOrder.reorder (storedFields fields))

def storedItems : List Document → List Document
  | [] => []
  | item :: rest => item.stored :: storedItems rest

def storedFields : Entry → Entry
  | [] => []
  | (key, value) :: rest => (key, value.stored) :: storedFields rest

end

theorem storedItems_eq_map (items : List Document) :
    storedItems items = items.map Document.stored := by
  induction items with
  | nil => rfl
  | cons item rest ih => rw [storedItems, ih, List.map_cons]

theorem storedFields_eq_map (fields : Entry) :
    storedFields fields = fields.map fun field => (field.1, field.2.stored) := by
  induction fields with
  | nil => rfl
  | cons field rest ih => rw [storedFields, ih, List.map_cons]

/-- The entry that an object is read back as. -/
def readBack (fields : Entry) : Entry :=
  FieldOrder.reorder (storedFields fields)

variable {fields : Entry}

theorem readBack_perm (fields : Entry) :
    (readBack fields).Perm (fields.map fun field => (field.1, field.2.stored)) := by
  rw [← storedFields_eq_map]
  exact FieldOrder.perm _

theorem readBack_keys (distinct : (fields.map Prod.fst).Nodup) :
    ((readBack fields).map Prod.fst).Nodup := by
  refine ((readBack_perm fields).map Prod.fst).nodup_iff.mpr ?_
  rwa [List.map_map]

/-- A field is read back under its key. -/
theorem lookup_readBack (distinct : (fields.map Prod.fst).Nodup) (key : String) :
    (readBack fields).lookup key = (fields.lookup key).map Document.stored := by
  apply Option.ext
  intro value
  rw [Mapping.lookup_eq_some_iff (readBack_keys distinct), (readBack_perm fields).mem_iff,
    List.mem_map, Option.map_eq_some_iff]
  constructor
  · rintro ⟨field, member, same⟩
    cases same
    exact ⟨field.2, (Mapping.lookup_eq_some_iff distinct).mpr member, rfl⟩
  · rintro ⟨held, found, rfl⟩
    exact ⟨(key, held), (Mapping.lookup_eq_some_iff distinct).mp found, rfl⟩

theorem onlyFields_readBack (distinct : (fields.map Prod.fst).Nodup) (allowed : List String)
    (name : String) (optional : List String) :
    onlyFields (readBack fields) allowed name optional =
      onlyFields fields allowed name optional := by
  have sameKeys : (readBack fields).all (fun field =>
      allowed.contains field.1 || optional.contains field.1) =
      fields.all fun field => allowed.contains field.1 || optional.contains field.1 := by
    rw [(readBack_perm fields).all_eq, List.all_map]
    rfl
  have sameLookups : (allowed.all fun key => ((readBack fields).lookup key).isSome) =
      allowed.all fun key => (fields.lookup key).isSome := by
    congr 1
    funext key
    rw [lookup_readBack distinct, Option.isSome_map]
  unfold onlyFields
  rw [sameKeys, sameLookups]

/-- The metadata of a payload is read back as it was. -/
theorem readMetadata_readBack (distinct : (fields.map Prod.fst).Nodup) {metadata : Mapping Value}
    (stored : fields.lookup "merchant_metadata" = some (metadataPayload metadata)) :
    readMetadata (readBack fields) = .ok metadata := by
  have read : (readBack fields).lookup "merchant_metadata" =
      some (.object (readBack (metadata.entries.map fun entry => (entry.1, .scalar entry.2)))) := by
    rw [lookup_readBack distinct, stored]
    rfl
  have values : ((readBack (metadata.entries.map fun entry => (entry.1, .scalar entry.2))).filterMap
      fun field => match field.2 with
        | .scalar value => some (field.1, value)
        | _ => none).Perm metadata.entries := by
    refine ((readBack_perm _).filterMap _).trans ?_
    rw [List.filterMap_map, List.filterMap_map]
    have same : ((fun field : String × Document => match field.2 with
        | .scalar value => some (field.1, value)
        | _ => none) ∘ fun field : String × Document => (field.1, field.2.stored)) ∘
        (fun entry : String × Value => (entry.1, Document.scalar entry.2)) = some := by
      funext entry
      rfl
    rw [Function.comp_assoc] at same
    rw [Function.comp_assoc, same, List.filterMap_some]
  unfold readMetadata
  rw [read]
  change Except.ok (Mapping.ofEntries _) = Except.ok metadata
  rw [Mapping.ofEntries_perm values (((values.map Prod.fst).nodup_iff).mpr metadata.keysNodup),
    Mapping.ofEntries_entries]

/-! ## The codec gives a source back -/

section RoundTrip

variable {name : String}

theorem readString_readBack (distinct : (fields.map Prod.fst).Nodup) {text : String}
    (stored : fields.lookup name = some (.scalar (.text text))) :
    readString (readBack fields) name = .ok text := by
  rw [readString, lookup_readBack distinct, stored]
  rfl

theorem readOptionalString_readBack (distinct : (fields.map Prod.fst).Nodup)
    {text : Option String} (stored : fields.lookup name = some (optionalText text)) :
    readOptionalString (readBack fields) name = .ok text := by
  rw [readOptionalString, lookup_readBack distinct, stored]
  cases text <;> rfl

theorem readOptionalString_absent (distinct : (fields.map Prod.fst).Nodup)
    (absent : fields.lookup name = none) :
    readOptionalString (readBack fields) name = .ok none := by
  rw [readOptionalString, lookup_readBack distinct, absent]
  rfl

theorem readInteger_readBack (distinct : (fields.map Prod.fst).Nodup) {value : Int}
    (stored : fields.lookup name = some (.scalar (.integer value))) :
    readInteger (readBack fields) name = .ok value := by
  rw [readInteger, lookup_readBack distinct, stored]
  rfl

theorem readNullableInteger_readBack (distinct : (fields.map Prod.fst).Nodup) {value : Option Int}
    (stored : fields.lookup name = some (.scalar (value.elim .null .integer))) :
    readNullableInteger (readBack fields) name = .ok value := by
  rw [readNullableInteger, lookup_readBack distinct, stored]
  cases value <;> rfl

theorem readArray_readBack (distinct : (fields.map Prod.fst).Nodup) {items : List Document}
    (stored : fields.lookup name = some (.array items)) :
    readArray (readBack fields) name = .ok (items.map Document.stored) := by
  rw [readArray, lookup_readBack distinct, stored, ← storedItems_eq_map]
  rfl

/-- A mapping of strings is read back as it was. -/
theorem readStringMap_readBack (distinct : (fields.map Prod.fst).Nodup) {texts : Mapping String}
    (stored : fields.lookup name = some (.object
      (texts.entries.map fun entry => (entry.1, .scalar (.text entry.2))))) :
    readStringMap (readBack fields) name = .ok texts := by
  have read : (readBack fields).lookup name = some (.object
      (readBack (texts.entries.map fun entry => (entry.1, .scalar (.text entry.2))))) := by
    rw [lookup_readBack distinct, stored]
    rfl
  have perm := readBack_perm (texts.entries.map fun entry => (entry.1, .scalar (.text entry.2)))
  rw [List.map_map] at perm
  obtain ⟨entries, isRead, same⟩ := exists_eq_map_of_perm perm
  unfold readStringMap
  rw [read]
  refine except_bind_eq_ok_iff.mpr ⟨_, rfl, except_bind_eq_ok_iff.mpr ⟨entries, ?_, ?_⟩⟩
  · rw [isRead, mapM_eq_ok_iff, List.forall₂_map_left_iff, List.forall₂_same]
    exact fun _ _ => rfl
  · rw [Mapping.ofEntries_perm same (((same.map Prod.fst).nodup_iff).mpr texts.keysNodup),
      Mapping.ofEntries_entries]
    rfl

/-- A variant is read back as it was stored. -/
theorem parseVariant_stored (variant : Made SourceVariant) :
    parseVariant variant.fields.payload.stored = .ok variant := by
  have distinct : (variant.fields.payload.fields.map Prod.fst).Nodup := by
    simp only [SourceVariant.payload, Document.fields]
    split <;> simp
  have only : onlyFields (readBack variant.fields.payload.fields)
      ["sku", "label", "price_amount_minor", "currency", "inventory_quantity",
        "merchant_metadata"] "source variant" ["availability"] = .ok () := by
    rw [onlyFields_readBack distinct]
    simp only [SourceVariant.payload, Document.fields]
    split <;> simp [onlyFields]
  have stated : readOptionalString (readBack variant.fields.payload.fields) "availability" =
      .ok (if variant.fields.inventoryQuantity.isNone then
        some variant.fields.availability.value else none) := by
    cases isQuantity : variant.fields.inventoryQuantity with
    | none =>
        apply readOptionalString_readBack distinct
        simp [SourceVariant.payload, Document.fields, isQuantity, optionalText,
          Mapping.lookup_cons_ite]
    | some quantity =>
        apply readOptionalString_absent distinct
        simp [SourceVariant.payload, Document.fields, isQuantity]
  have isStored : variant.fields.payload.stored =
      .object (readBack variant.fields.payload.fields) := rfl
  rw [isStored]
  unfold parseVariant
  refine except_bind_eq_ok_iff.mpr ⟨_, rfl, except_bind_eq_ok_iff.mpr ⟨(), only, ?_⟩⟩
  refine except_bind_eq_ok_iff.mpr ⟨_, readNullableInteger_readBack distinct rfl, ?_⟩
  refine except_bind_eq_ok_iff.mpr ⟨_, readString_readBack distinct rfl, ?_⟩
  refine except_bind_eq_ok_iff.mpr ⟨_, readOptionalString_readBack distinct rfl, ?_⟩
  refine except_bind_eq_ok_iff.mpr ⟨_, readInteger_readBack distinct rfl, ?_⟩
  refine except_bind_eq_ok_iff.mpr ⟨_, readString_readBack distinct rfl, ?_⟩
  refine except_bind_eq_ok_iff.mpr ⟨_, stated, ?_⟩
  refine except_bind_eq_ok_iff.mpr ⟨_, readStoredAvailability_payload variant _, ?_⟩
  refine except_bind_eq_ok_iff.mpr ⟨_, readMetadata_readBack distinct rfl, ?_⟩
  exact make_made variant

/-- A product is read back as it was stored. -/
theorem parseProduct_stored (product : Made SourceProduct) :
    parseProduct product.fields.payload.stored = .ok product := by
  have distinct : (product.fields.payload.fields.map Prod.fst).Nodup := by
    simp [SourceProduct.payload, Document.fields]
  have only : onlyFields (readBack product.fields.payload.fields)
      ["external_id", "title", "description", "category", "variants", "merchant_metadata"]
      "source product" = .ok () := by
    rw [onlyFields_readBack distinct]
    simp [SourceProduct.payload, Document.fields, onlyFields]
  have variants : ((product.fields.variants.map fun variant => variant.fields.payload).map
      Document.stored).mapM parseVariant = .ok product.fields.variants := by
    rw [mapM_eq_ok_iff, List.map_map, List.forall₂_map_left_iff, List.forall₂_same]
    exact fun variant _ => parseVariant_stored variant
  have isStored : product.fields.payload.stored =
      .object (readBack product.fields.payload.fields) := rfl
  rw [isStored]
  unfold parseProduct
  refine except_bind_eq_ok_iff.mpr ⟨_, rfl, except_bind_eq_ok_iff.mpr ⟨(), only, ?_⟩⟩
  refine except_bind_eq_ok_iff.mpr ⟨_, readString_readBack distinct rfl, ?_⟩
  refine except_bind_eq_ok_iff.mpr ⟨_, readString_readBack distinct rfl, ?_⟩
  refine except_bind_eq_ok_iff.mpr ⟨_, readOptionalString_readBack distinct rfl, ?_⟩
  refine except_bind_eq_ok_iff.mpr ⟨_, readOptionalString_readBack distinct rfl, ?_⟩
  refine except_bind_eq_ok_iff.mpr ⟨_, readArray_readBack distinct rfl, ?_⟩
  refine except_bind_eq_ok_iff.mpr ⟨_, variants, ?_⟩
  refine except_bind_eq_ok_iff.mpr ⟨_, readMetadata_readBack distinct rfl, ?_⟩
  exact make_made product

/-- A source document is read back as it was stored. -/
theorem parseSource_stored (source : Made MerchantSourceDefinition) :
    parseSource source.fields.payload.stored = .ok source := by
  have distinct : (source.fields.payload.fields.map Prod.fst).Nodup := by
    simp [MerchantSourceDefinition.payload, Document.fields]
  have only : onlyFields (readBack source.fields.payload.fields)
      ["key", "version", "merchant_slug", "products", "policy_text"] "source" = .ok () := by
    rw [onlyFields_readBack distinct]
    simp [MerchantSourceDefinition.payload, Document.fields, onlyFields]
  have products : ((source.fields.products.map fun product => product.fields.payload).map
      Document.stored).mapM parseProduct = .ok source.fields.products := by
    rw [mapM_eq_ok_iff, List.map_map, List.forall₂_map_left_iff, List.forall₂_same]
    exact fun product _ => parseProduct_stored product
  have isStored : source.fields.payload.stored =
      .object (readBack source.fields.payload.fields) := rfl
  rw [isStored]
  unfold parseSource
  refine except_bind_eq_ok_iff.mpr ⟨_, rfl, except_bind_eq_ok_iff.mpr ⟨(), only, ?_⟩⟩
  refine except_bind_eq_ok_iff.mpr ⟨_, readString_readBack distinct rfl, ?_⟩
  refine except_bind_eq_ok_iff.mpr ⟨_, readInteger_readBack distinct rfl, ?_⟩
  refine except_bind_eq_ok_iff.mpr ⟨_, readString_readBack distinct rfl, ?_⟩
  refine except_bind_eq_ok_iff.mpr ⟨_, readArray_readBack distinct rfl, ?_⟩
  refine except_bind_eq_ok_iff.mpr ⟨_, products, ?_⟩
  refine except_bind_eq_ok_iff.mpr ⟨_, readStringMap_readBack distinct rfl, ?_⟩
  exact make_made source

end RoundTrip

end Storage

end AgentRank.Representation
