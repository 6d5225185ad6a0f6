import AgentRank.Representation.Definitions

/-!
# The grammar of source field addresses

This module models `representation/fields.py`.  An address names one text of a source
document by the identifiers that the merchant gave.  Identifiers hold no dot and no bracket
where the intake accepted them, and then an address names one field only.
-/

namespace AgentRank.Representation

open Relational Store Text

def maxExcerptLength : Nat := 500

inductive VariantField
  | priceAmountMinor
  | availability
  | inventoryQuantity
  | metadata (key : String)
  | label
deriving DecidableEq

inductive ProductField
  | title
  | description
  | category
  | variant (sku : String) (field : VariantField)
deriving DecidableEq

/-- A field of a source document, by the identifiers on the way to it. -/
inductive FieldAddress
  | product (externalId : String) (field : ProductField)
  | policy (name : String)
deriving DecidableEq

def metadataPrefix : String := "merchant_metadata."

def VariantField.text : VariantField → String
  | priceAmountMinor => "price_amount_minor"
  | availability => "availability"
  | inventoryQuantity => "inventory_quantity"
  | metadata key => metadataPrefix ++ key
  | label => "label"

def ProductField.text : ProductField → String
  | title => "title"
  | description => "description"
  | category => "category"
  | variant sku field => "variants[" ++ sku ++ "]." ++ field.text

/-- The address as a candidate cites it. -/
def FieldAddress.text : FieldAddress → String
  | product externalId field => "products[" ++ externalId ++ "]." ++ field.text
  | policy name => "policy_text." ++ name

/-- The field at which a variant states its stock. -/
def stockField (variant : SourceVariant) : VariantField × String :=
  match variant.inventoryQuantity with
  | none => (.availability, variant.availability.value)
  | some quantity => (.inventoryQuantity, toString quantity)

def metadataFields (variant : SourceVariant) : List (VariantField × String) :=
  variant.merchantMetadata.entries.filterMap fun entry =>
    match entry.2 with
    | .text text => some (.metadata entry.1, text)
    | _ => none

def variantFields (variant : SourceVariant) : List (VariantField × String) :=
  (.priceAmountMinor, toString variant.priceAmountMinor) :: stockField variant ::
    metadataFields variant ++ (variant.label.map fun label => (VariantField.label, label)).toList

def variantEntries (product : SourceProduct) : List (ProductField × String) :=
  product.variants.flatMap fun variant =>
    (variantFields variant.fields).map fun field => (.variant variant.fields.sku field.1, field.2)

def productFields (product : SourceProduct) : List (ProductField × String) :=
  (.title, product.title) ::
    (product.description.map fun text => (ProductField.description, text)).toList ++
      (product.category.map fun text => (ProductField.category, text)).toList ++
      variantEntries product

/-- The fields that a document declares, in the order in which they are collected. -/
def declaredFields (source : MerchantSourceDefinition) : List (FieldAddress × String) :=
  (source.products.flatMap fun product =>
      (productFields product.fields).map fun field =>
        (.product product.fields.externalId field.1, field.2)) ++
    source.policyText.entries.map fun entry => (.policy entry.1, entry.2)

/-- `source_fields`. -/
def sourceFields (source : MerchantSourceDefinition) : Mapping String :=
  .ofEntries ((declaredFields source).map fun field => (field.1.text, field.2))

def isIdentifierStart (char : Char) : Bool :=
  ('A' ≤ char && char ≤ 'Z') || ('a' ≤ char && char ≤ 'z') || ('0' ≤ char && char ≤ '9')

def isIdentifierPart (char : Char) : Bool :=
  isIdentifierStart char || char == '_' || char == '-'

/-- `IDENTIFIER_PATTERN` and `NAME_PATTERN`. -/
def isIdentifier (text : String) : Bool :=
  match text.toList with
  | [] => false
  | first :: rest =>
      isIdentifierStart first && rest.length ≤ 63 && rest.all isIdentifierPart

/-- A text without the characters that both grammars are written with. -/
def IsPlain (text : String) : Prop :=
  '.' ∉ text.toList ∧ ']' ∉ text.toList

theorem isPlain_of_isIdentifier {text : String} (isId : isIdentifier text = true) :
    IsPlain text := by
  have parts : ∀ char ∈ text.toList, isIdentifierPart char = true := by
    unfold isIdentifier at isId
    split at isId
    · cases isId
    · next first rest isText =>
        simp only [Bool.and_eq_true, List.all_eq_true] at isId
        intro char member
        rw [isText] at member
        rcases List.mem_cons.mp member with rfl | later
        · simp [isIdentifierPart, isId.1.1]
        · exact isId.2 char later
  exact ⟨fun member => absurd (parts _ member) (by decide),
    fun member => absurd (parts _ member) (by decide)⟩

/-- A text that ends at the first of some character is told from what follows. -/
theorem append_cons_injective {first second firstRest secondRest : List Char} {stop : Char}
    (firstFree : stop ∉ first) (secondFree : stop ∉ second)
    (same : first ++ stop :: firstRest = second ++ stop :: secondRest) :
    first = second ∧ firstRest = secondRest := by
  induction first generalizing second with
  | nil =>
      cases second with
      | nil => exact ⟨rfl, (List.cons.inj same).2⟩
      | cons char rest =>
          obtain ⟨rfl, _⟩ := List.cons.inj same
          exact absurd List.mem_cons_self secondFree
  | cons char rest ih =>
      cases second with
      | nil =>
          obtain ⟨rfl, _⟩ := List.cons.inj same
          exact absurd List.mem_cons_self firstFree
      | cons other others =>
          obtain ⟨rfl, sameRest⟩ := List.cons.inj same
          obtain ⟨rfl, later⟩ := ih (fun member => firstFree (List.mem_cons_of_mem _ member))
            (fun member => secondFree (List.mem_cons_of_mem _ member)) sameRest
          exact ⟨rfl, later⟩

/-- What stands in brackets is told from what follows. -/
theorem brackets_injective {opening first second firstRest secondRest : String}
    (firstPlain : IsPlain first) (secondPlain : IsPlain second)
    (same : opening ++ first ++ "]." ++ firstRest = opening ++ second ++ "]." ++ secondRest) :
    first = second ∧ firstRest = secondRest := by
  have sameChars := congrArg String.toList same
  have stop : "].".toList = [']', '.'] := rfl
  simp only [String.toList_append, List.append_assoc, List.append_cancel_left_eq,
    stop] at sameChars
  obtain ⟨sameFirst, sameRest⟩ := append_cons_injective firstPlain.2 secondPlain.2 sameChars
  exact ⟨String.toList_injective sameFirst, String.toList_injective (List.cons.inj sameRest).2⟩

theorem VariantField.text_injective {first second : VariantField}
    (same : first.text = second.text) : first = second := by
  have sameChars := congrArg String.toList same
  cases first <;> cases second <;> simp [VariantField.text, metadataPrefix] at same sameChars ⊢
  exact same

def ProductField.Plain : ProductField → Prop
  | variant sku _ => IsPlain sku
  | _ => True

theorem ProductField.text_injective {first second : ProductField} (firstPlain : first.Plain)
    (secondPlain : second.Plain) (same : first.text = second.text) : first = second := by
  have sameChars := congrArg String.toList same
  cases first <;> cases second <;> simp [ProductField.text] at sameChars ⊢
  next sku field other otherField =>
    rw [ProductField.text, ProductField.text] at same
    obtain ⟨sameSku, sameField⟩ := brackets_injective firstPlain secondPlain same
    exact ⟨sameSku, VariantField.text_injective sameField⟩

/-- The identifiers of an address are plain. -/
def FieldAddress.Plain : FieldAddress → Prop
  | product externalId field => IsPlain externalId ∧ field.Plain
  | policy _ => True

theorem FieldAddress.text_injective {first second : FieldAddress} (firstPlain : first.Plain)
    (secondPlain : second.Plain) (same : first.text = second.text) : first = second := by
  have sameChars := congrArg String.toList same
  cases first <;> cases second <;> simp [FieldAddress.text] at sameChars ⊢
  · rw [FieldAddress.text, FieldAddress.text] at same
    obtain ⟨sameId, sameField⟩ := brackets_injective firstPlain.1 secondPlain.1 same
    exact ⟨sameId, ProductField.text_injective firstPlain.2 secondPlain.2 sameField⟩
  · exact String.toList_injective sameChars

/-! ## Documents with plain identifiers -/

/-- A document whose identifiers the intake accepted. -/
structure PlainIdentifiers (source : MerchantSourceDefinition) : Prop where
  externalIds : ∀ externalId ∈ source.externalIds, IsPlain externalId
  skus : ∀ sku ∈ source.skus, IsPlain sku

section Declared

variable {source : MerchantSourceDefinition}

theorem metadataFields_address {variant : SourceVariant} {field : VariantField × String}
    (member : field ∈ metadataFields variant) :
    ∃ key, field.1 = .metadata key ∧ (key, .text field.2) ∈ variant.merchantMetadata.entries := by
  rcases List.mem_filterMap.mp member with ⟨⟨key, value⟩, entryMem, isField⟩
  cases value <;> cases isField
  exact ⟨key, rfl, entryMem⟩

theorem metadataFields_nodup (variant : SourceVariant) :
    ((metadataFields variant).map Prod.fst).Nodup := by
  have distinct := List.pairwise_map.mp variant.merchantMetadata.keysNodup
  refine List.pairwise_map.mpr (List.pairwise_filterMap.mpr (distinct.imp ?_))
  rintro ⟨key, value⟩ ⟨other, otherValue⟩ differs field isField otherField isOther same
  cases value <;> cases isField
  cases otherValue <;> cases isOther
  exact differs (VariantField.metadata.inj same)

/-- A variant states each field once. -/
theorem variantFields_nodup (variant : SourceVariant) :
    ((variantFields variant).map Prod.fst).Nodup := by
  have ofMetadata : ∀ field ∈ metadataFields variant, ∃ key, field.1 = .metadata key :=
    fun field member => (metadataFields_address member).imp fun _ both => both.1
  have stockIs : (stockField variant).1 = .availability ∨
      (stockField variant).1 = .inventoryQuantity := by
    unfold stockField
    split
    · exact Or.inl rfl
    · exact Or.inr rfl
  have notMetadata : ∀ address : VariantField, (∀ key, address ≠ .metadata key) →
      address ∉ (metadataFields variant).map Prod.fst := by
    intro address isOther member
    rcases List.mem_map.mp member with ⟨field, fieldMem, rfl⟩
    obtain ⟨key, isMetadata⟩ := ofMetadata field fieldMem
    exact isOther key isMetadata
  have noPrice := notMetadata .priceAmountMinor nofun
  have noLabel := notMetadata .label nofun
  have noStock := notMetadata (stockField variant).1 fun key isMetadata => by
    rcases stockIs with isStock | isStock <;> rw [isStock] at isMetadata <;> cases isMetadata
  simp only [variantFields, List.map_append, List.map_cons, List.cons_append,
    List.nodup_cons, List.nodup_append, List.mem_cons, List.mem_append]
  cases variant.label with
  | none =>
      simp only [Option.map_none, Option.toList_none, List.map_nil, List.not_mem_nil, or_false,
        List.nodup_nil, false_imp_iff, implies_true, and_true]
      refine ⟨?_, noStock, metadataFields_nodup variant⟩
      rintro (isStock | isMetadata)
      · rcases stockIs with other | other <;> rw [other] at isStock <;> cases isStock
      · exact noPrice isMetadata
  | some label =>
      simp only [Option.map_some, Option.toList_some, List.map_cons, List.map_nil,
        List.mem_singleton, List.nodup_singleton, true_and]
      refine ⟨?_, ?_, metadataFields_nodup variant, ?_⟩
      · rintro (isStock | isMetadata | isLabel)
        · rcases stockIs with other | other <;> rw [other] at isStock <;> cases isStock
        · exact noPrice isMetadata
        · cases isLabel
      · rintro (isMetadata | isLabel)
        · exact noStock isMetadata
        · rcases stockIs with other | other <;> rw [other] at isLabel <;> cases isLabel
      · rintro address member _ rfl rfl
        exact noLabel member

theorem mem_variantEntries {product : SourceProduct} {field : ProductField × String} :
    field ∈ variantEntries product ↔
      ∃ variant ∈ product.variants, ∃ inner ∈ variantFields variant.fields,
        (.variant variant.fields.sku inner.1, inner.2) = field := by
  simp only [variantEntries, List.mem_flatMap, List.mem_map]

theorem variantEntries_nodup {product : SourceProduct}
    (distinct : (product.variants.map fun variant => variant.fields.sku).Nodup) :
    ((variantEntries product).map Prod.fst).Nodup := by
  rw [variantEntries, List.map_flatMap, List.nodup_flatMap]
  constructor
  · intro variant _
    have inner := variantFields_nodup variant.fields
    have renamed := inner.map fun first second
      (same : ProductField.variant variant.fields.sku first = .variant variant.fields.sku second) =>
        (ProductField.variant.inj same).2
    rwa [List.map_map] at renamed ⊢
  · refine (List.pairwise_map.mp distinct).imp ?_
    intro first second differs address firstMem secondMem
    rcases List.mem_map.mp firstMem with ⟨_, firstField, rfl⟩
    rcases List.mem_map.mp firstField with ⟨_, _, rfl⟩
    rcases List.mem_map.mp secondMem with ⟨_, secondField, same⟩
    rcases List.mem_map.mp secondField with ⟨_, _, rfl⟩
    exact differs (ProductField.variant.inj same).1.symm

theorem not_mem_variantEntries {product : SourceProduct} {address : ProductField}
    (isOther : ∀ sku field, address ≠ .variant sku field) :
    address ∉ (variantEntries product).map Prod.fst := by
  intro member
  rcases List.mem_map.mp member with ⟨_, fieldMem, rfl⟩
  obtain ⟨variant, _, inner, _, rfl⟩ := mem_variantEntries.mp fieldMem
  exact isOther _ _ rfl

/-- A product states each field once. -/
theorem productFields_nodup {product : SourceProduct}
    (distinct : (product.variants.map fun variant => variant.fields.sku).Nodup) :
    ((productFields product).map Prod.fst).Nodup := by
  have noTitle := @not_mem_variantEntries product .title nofun
  have noDescription := @not_mem_variantEntries product .description nofun
  have noCategory := @not_mem_variantEntries product .category nofun
  have ofVariants := variantEntries_nodup distinct
  rw [productFields, List.map_append, List.nodup_append]
  refine ⟨?_, ofVariants, ?_⟩
  · cases product.description <;> cases product.category <;> simp
  · rintro address own _ other rfl
    have isOwn : address = .title ∨ address = .description ∨ address = .category := by
      cases described : product.description <;> cases categorised : product.category <;>
        simp [described, categorised] at own <;> tauto
    rcases isOwn with rfl | rfl | rfl
    · exact noTitle other
    · exact noDescription other
    · exact noCategory other

theorem skus_nodup_of_mem (sound : SourceSound source) {product : Made SourceProduct}
    (member : product ∈ source.products) :
    (product.fields.variants.map fun variant => variant.fields.sku).Nodup := by
  have skus := sound.skus
  rw [MerchantSourceDefinition.skus, MerchantSourceDefinition.variants, List.map_flatMap,
    List.nodup_flatMap] at skus
  exact skus.1 product member

/-- A document declares each field once. -/
theorem declaredFields_nodup (sound : SourceSound source) :
    ((declaredFields source).map Prod.fst).Nodup := by
  rw [declaredFields, List.map_append, List.nodup_append, List.map_flatMap, List.nodup_flatMap]
  refine ⟨⟨?_, ?_⟩, ?_, ?_⟩
  · intro product member
    have inner := productFields_nodup (skus_nodup_of_mem sound member)
    have renamed := inner.map fun first second
      (same : FieldAddress.product product.fields.externalId first = .product _ second) =>
        (FieldAddress.product.inj same).2
    rwa [List.map_map] at renamed ⊢
  · refine (List.pairwise_map.mp sound.externalIds).imp ?_
    intro first second differs address firstMem secondMem
    rcases List.mem_map.mp firstMem with ⟨_, firstField, rfl⟩
    rcases List.mem_map.mp firstField with ⟨_, _, rfl⟩
    rcases List.mem_map.mp secondMem with ⟨_, secondField, same⟩
    rcases List.mem_map.mp secondField with ⟨_, _, rfl⟩
    exact differs (FieldAddress.product.inj same).1.symm
  · have renamed := source.policyText.keysNodup.map fun first second
      (same : FieldAddress.policy first = .policy second) => FieldAddress.policy.inj same
    rwa [List.map_map] at renamed ⊢
  · rintro _ ofProduct _ ofPolicy rfl
    rcases List.mem_flatMap.mp ofProduct with ⟨product, _, member⟩
    rcases List.mem_map.mp member with ⟨_, fieldMem, rfl⟩
    rcases List.mem_map.mp fieldMem with ⟨_, _, rfl⟩
    rcases List.mem_map.mp ofPolicy with ⟨_, entryMem, same⟩
    rcases List.mem_map.mp entryMem with ⟨_, _, rfl⟩
    cases same

theorem mem_declaredFields {field : FieldAddress × String} :
    field ∈ declaredFields source ↔
      (∃ product ∈ source.products, ∃ inner ∈ productFields product.fields,
        (.product product.fields.externalId inner.1, inner.2) = field) ∨
      ∃ entry ∈ source.policyText.entries, (.policy entry.1, entry.2) = field := by
  simp only [declaredFields, List.mem_append, List.mem_flatMap, List.mem_map]

theorem mem_variants_iff {variant : Made SourceVariant} :
    variant ∈ source.variants ↔
      ∃ product ∈ source.products, variant ∈ product.fields.variants := by
  rw [MerchantSourceDefinition.variants, List.mem_flatMap]

theorem declaredFields_plain (plain : PlainIdentifiers source) {field : FieldAddress × String}
    (member : field ∈ declaredFields source) : field.1.Plain := by
  rcases mem_declaredFields.mp member with ⟨product, productMem, inner, innerMem, rfl⟩ | ⟨_, _, rfl⟩
  · refine ⟨plain.externalIds _ (List.mem_map_of_mem productMem), ?_⟩
    by_cases isVariant : ∃ sku field, inner.1 = .variant sku field
    · obtain ⟨sku, field, isField⟩ := isVariant
      have fromVariants : inner ∈ variantEntries product.fields := by
        rcases List.mem_append.mp innerMem with own | ofVariants
        · cases described : product.fields.description <;>
            cases categorised : product.fields.category <;>
            simp [described, categorised] at own <;> aesop
        · exact ofVariants
      obtain ⟨variant, variantMem, _, _, rfl⟩ := mem_variantEntries.mp fromVariants
      apply plain.skus
      exact List.mem_map_of_mem (mem_variants_iff.mpr ⟨product, productMem, variantMem⟩)
    · cases isField : inner.1 with
      | variant sku field => exact absurd ⟨sku, field, isField⟩ isVariant
      | title | description | category => trivial
  · trivial

/-- The addresses of different fields differ. -/
theorem addresses_nodup (sound : SourceSound source) (plain : PlainIdentifiers source) :
    ((declaredFields source).map fun field => field.1.text).Nodup := by
  have declared := List.pairwise_map.mp (declaredFields_nodup sound)
  refine List.pairwise_map.mpr (declared.imp_of_mem ?_)
  intro first second firstMem secondMem differs same
  exact differs (FieldAddress.text_injective (declaredFields_plain plain firstMem)
    (declaredFields_plain plain secondMem) same)

/-- Every address that a document declares leads to the text that it names. -/
theorem sourceFields_resolves (sound : SourceSound source) (plain : PlainIdentifiers source)
    {address : FieldAddress} {text : String} (member : (address, text) ∈ declaredFields source) :
    (sourceFields source).get? address.text = some text := by
  have distinct : (((declaredFields source).map fun field =>
      (field.1.text, field.2)).map Prod.fst).Nodup := by
    rw [List.map_map]
    exact addresses_nodup sound plain
  rw [sourceFields, Mapping.get?_ofEntries distinct, Mapping.lookup_eq_some_iff distinct]
  exact List.mem_map.mpr ⟨_, member, rfl⟩

end Declared

end AgentRank.Representation
