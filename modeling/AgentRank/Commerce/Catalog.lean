import AgentRank.Constraints.Request
import AgentRank.Relational.Unique

/-!
# The catalog and its seeding

This module models `commerce/models.py` and `commerce/catalog_fixture.py`: the products and
variants of all merchants under the constraints of the database, and the seeding of one
merchant's catalog, which finds every named row or creates it, and writes it.
-/

namespace AgentRank.Commerce

open Constraints Relational Store

/-! ## Rows -/

/-- The columns of a product that a merchant writes. -/
structure ProductFields where
  title : String
  description : Option String
  category : Option String
  isActive : Bool
deriving DecidableEq

structure CatalogProduct extends Product where
  merchantId : Uuid
  externalId : String
  title : String
  description : Option String
deriving DecidableEq

/-- The columns of a variant that a merchant writes. -/
structure VariantFields where
  label : Option String
  priceAmountMinor : Nat
  currency : String
  inventoryQuantity : Nat
  attributes : Attributes
  isActive : Bool
  isCurrency : isCurrencyCode currency = true

structure CatalogVariant extends Variant where
  sku : String
  label : Option String
  isCurrency : isCurrencyCode currency = true

instance : Keyed CatalogProduct Uuid where
  key product := product.id

instance : Keyed CatalogVariant Uuid where
  key variant := variant.id

variable {product : CatalogProduct}

namespace CatalogProduct

def fields (product : CatalogProduct) : ProductFields where
  title := product.title
  description := product.description
  category := product.category
  isActive := product.isActive

/-- What names a product of a merchant. -/
def mark (product : CatalogProduct) : Uuid × String :=
  (product.merchantId, product.externalId)

def write (fields : ProductFields) (product : CatalogProduct) : CatalogProduct :=
  { product with
    title := fields.title, description := fields.description, category := fields.category,
    isActive := fields.isActive }

/-- Writing what a product says already changes nothing. -/
theorem write_fields {fields : ProductFields} (same : product.fields = fields) :
    product.write fields = product := by
  subst same
  rfl

end CatalogProduct

variable {variant : CatalogVariant}

namespace CatalogVariant

def fields (variant : CatalogVariant) : VariantFields where
  label := variant.label
  priceAmountMinor := variant.priceAmountMinor
  currency := variant.currency
  inventoryQuantity := variant.inventoryQuantity
  attributes := variant.attributes
  isActive := variant.isActive
  isCurrency := variant.isCurrency

/-- What names a variant of a merchant. -/
def mark (variant : CatalogVariant) : Uuid × String :=
  (variant.merchantId, variant.sku)

def write (fields : VariantFields) (variant : CatalogVariant) : CatalogVariant :=
  { variant with
    label := fields.label, priceAmountMinor := fields.priceAmountMinor,
    currency := fields.currency, inventoryQuantity := fields.inventoryQuantity,
    attributes := fields.attributes, isActive := fields.isActive
    isCurrency := fields.isCurrency }

/-- Put a quantity on the shelf. -/
def restock (quantity : Nat) (variant : CatalogVariant) : CatalogVariant :=
  { variant with inventoryQuantity := quantity }

@[simp]
theorem restock_self (variant : CatalogVariant) :
    variant.restock variant.inventoryQuantity = variant :=
  rfl

/-- What is written does not depend on what was in stock. -/
@[simp]
theorem write_restock (fields : VariantFields) (quantity : Nat) (variant : CatalogVariant) :
    (variant.restock quantity).write fields = variant.write fields :=
  rfl

/-- Writing what a variant says already changes nothing. -/
theorem write_fields {fields : VariantFields} (same : variant.fields = fields) :
    variant.write fields = variant := by
  subst same
  rfl

end CatalogVariant

/-! ## The catalog -/

/-- The products and variants of all merchants.  A merchant names no two products alike and
no two variants, and a variant is filed under a product of its merchant. -/
structure Catalog where
  products : Table CatalogProduct
  variants : Table CatalogVariant
  externalIds : products.Unique CatalogProduct.mark
  skus : variants.Unique CatalogVariant.mark
  filed : ∀ variant ∈ variants, ∃ product ∈ products,
    product.id = variant.productId ∧ product.merchantId = variant.merchantId

namespace Catalog

@[ext]
theorem ext {first second : Catalog} (sameProducts : first.products = second.products)
    (sameVariants : first.variants = second.variants) : first = second := by
  cases first
  cases second
  cases sameProducts
  cases sameVariants
  rfl

def empty : Catalog where
  products := .empty
  variants := .empty
  externalIds := Table.unique_empty _
  skus := Table.unique_empty _
  filed variant member := absurd member (Table.not_mem_empty variant)

/-- Write the fields of every product. -/
def amendProducts (catalog : Catalog) (change : CatalogProduct → ProductFields) : Catalog where
  products := catalog.products.amend (fun product => product.write (change product))
    fun _ => rfl
  variants := catalog.variants
  externalIds := catalog.externalIds.amend fun _ => rfl
  skus := catalog.skus
  filed variant member := by
    rcases catalog.filed variant member with ⟨product, found, ofVariant⟩
    exact ⟨product.write (change product), Table.mem_amend_iff.mpr ⟨product, found, rfl⟩,
      ofVariant⟩

/-- Write the fields of every variant. -/
def amendVariants (catalog : Catalog) (change : CatalogVariant → VariantFields) : Catalog where
  products := catalog.products
  variants := catalog.variants.amend (fun variant => variant.write (change variant))
    fun _ => rfl
  externalIds := catalog.externalIds
  skus := catalog.skus.amend fun _ => rfl
  filed variant member := by
    rcases Table.mem_amend_iff.mp member with ⟨old, oldMem, rfl⟩
    exact catalog.filed old oldMem

variable {catalog : Catalog}

theorem mem_amendProducts_iff {change : CatalogProduct → ProductFields} :
    product ∈ (catalog.amendProducts change).products ↔
      ∃ old ∈ catalog.products, old.write (change old) = product :=
  List.mem_map

theorem mem_amendVariants_iff {change : CatalogVariant → VariantFields} :
    variant ∈ (catalog.amendVariants change).variants ↔
      ∃ old ∈ catalog.variants, old.write (change old) = variant :=
  List.mem_map

/-- A product that says already what is written remains. -/
theorem mem_amendProducts_of_fixed {change : CatalogProduct → ProductFields}
    (member : product ∈ catalog.products) (fixed : product.fields = change product) :
    product ∈ (catalog.amendProducts change).products :=
  mem_amendProducts_iff.mpr ⟨product, member, CatalogProduct.write_fields fixed⟩

/-- A variant that says already what is written remains. -/
theorem mem_amendVariants_of_fixed {change : CatalogVariant → VariantFields}
    (member : variant ∈ catalog.variants) (fixed : variant.fields = change variant) :
    variant ∈ (catalog.amendVariants change).variants :=
  mem_amendVariants_iff.mpr ⟨variant, member, CatalogVariant.write_fields fixed⟩

/-- Writing what the products say already changes nothing. -/
theorem amendProducts_of_fixed {change : CatalogProduct → ProductFields}
    (fixed : ∀ product ∈ catalog.products, product.fields = change product) :
    catalog.amendProducts change = catalog := by
  apply ext
  · refine Table.amend_of_fixed ?_ ?_
    · exact fun _ => rfl
    · exact fun product member => CatalogProduct.write_fields (fixed product member)
  · rfl

/-- Insert a product, under the constraints of its table. -/
def insertProduct? (catalog : Catalog) (product : CatalogProduct) : Option Catalog :=
  match inserted : catalog.products.insert? product with
  | none => none
  | some products =>
      if fresh : ∀ other ∈ catalog.products.rows, other.mark ≠ product.mark then
        some {
          products := products
          variants := catalog.variants
          externalIds := catalog.externalIds.insert? inserted fresh
          skus := catalog.skus
          filed := fun variant member => by
            rcases catalog.filed variant member with ⟨other, found, ofVariant⟩
            exact ⟨other, (Table.mem_insert?_iff inserted).mpr (Or.inl found), ofVariant⟩ }
      else none

/-- Insert a variant, under the constraints of its table. -/
def insertVariant? (catalog : Catalog) (variant : CatalogVariant) : Option Catalog :=
  match inserted : catalog.variants.insert? variant with
  | none => none
  | some variants =>
      if fresh : ∀ other ∈ catalog.variants.rows, other.mark ≠ variant.mark then
        if isFiled : ∃ product ∈ catalog.products.rows,
            product.id = variant.productId ∧ product.merchantId = variant.merchantId then
          some {
            products := catalog.products
            variants := variants
            externalIds := catalog.externalIds
            skus := catalog.skus.insert? inserted fresh
            filed := fun other member => by
              rcases (Table.mem_insert?_iff inserted).mp member with old | rfl
              · exact catalog.filed other old
              · exact isFiled }
        else none
      else none

theorem insertProduct?_eq_some {final : Catalog}
    (inserted : catalog.insertProduct? product = some final) :
    final.products.rows = catalog.products.rows ++ [product] ∧
      final.variants = catalog.variants := by
  unfold insertProduct? at inserted
  split at inserted
  · cases inserted
  · next products isInserted =>
      split at inserted
      · cases inserted
        exact ⟨(Table.insert?_eq_some_iff.mp isInserted).2, rfl⟩
      · cases inserted

theorem insertVariant?_eq_some {final : Catalog}
    (inserted : catalog.insertVariant? variant = some final) :
    final.products = catalog.products ∧
      final.variants.rows = catalog.variants.rows ++ [variant] := by
  unfold insertVariant? at inserted
  split at inserted
  · cases inserted
  · next variants isInserted =>
      split at inserted
      · split at inserted
        · cases inserted
          exact ⟨rfl, (Table.insert?_eq_some_iff.mp isInserted).2⟩
        · cases inserted
      · cases inserted

end Catalog

structure SeedVariant where
  sku : String
  fields : VariantFields

structure SeedProduct where
  externalId : String
  fields : ProductFields
  variants : List SeedVariant

/-- The rows that a transaction creates draw their identifiers. -/
structure Draws where
  product : String → Uuid
  variant : String → Uuid

section Seeding

variable (merchantId : Uuid) (draws : Draws)

def SeedProduct.Names (seed : SeedProduct) (product : CatalogProduct) : Prop :=
  product.merchantId = merchantId ∧ product.externalId = seed.externalId

def SeedVariant.Names (seed : SeedVariant) (variant : CatalogVariant) : Prop :=
  variant.merchantId = merchantId ∧ variant.sku = seed.sku

instance (seed : SeedProduct) (product : CatalogProduct) :
    Decidable (seed.Names merchantId product) :=
  inferInstanceAs (Decidable (_ ∧ _))

instance (seed : SeedVariant) (variant : CatalogVariant) :
    Decidable (seed.Names merchantId variant) :=
  inferInstanceAs (Decidable (_ ∧ _))

def SeedProduct.row (seed : SeedProduct) : CatalogProduct where
  id := draws.product seed.externalId
  category := seed.fields.category
  isActive := seed.fields.isActive
  merchantId := merchantId
  externalId := seed.externalId
  title := seed.fields.title
  description := seed.fields.description

def SeedVariant.row (seed : SeedVariant) (productId : Uuid) : CatalogVariant where
  id := draws.variant seed.sku
  merchantId := merchantId
  productId := productId
  priceAmountMinor := seed.fields.priceAmountMinor
  currency := seed.fields.currency
  inventoryQuantity := seed.fields.inventoryQuantity
  attributes := seed.fields.attributes
  isActive := seed.fields.isActive
  sku := seed.sku
  label := seed.fields.label
  isCurrency := seed.fields.isCurrency

/-- What a seed writes on a product: the product it names says what the seed says. -/
def SeedProduct.change (seed : SeedProduct) (product : CatalogProduct) : ProductFields :=
  if seed.Names merchantId product then seed.fields else product.fields

def SeedVariant.change (seed : SeedVariant) (variant : CatalogVariant) : VariantFields :=
  if seed.Names merchantId variant then seed.fields else variant.fields

/-- Find a product and write it, or create it. -/
def seedProductRow (seed : SeedProduct) (catalog : Catalog) : Option (CatalogProduct × Catalog) :=
  match catalog.products.rows.find? fun product => seed.Names merchantId product with
  | some product =>
      some (product.write seed.fields, catalog.amendProducts (seed.change merchantId))
  | none =>
      let product := seed.row merchantId draws
      (catalog.insertProduct? product).map fun inserted => (product, inserted)

/-- Find a variant and write it, or create it under a product.  A variant that is found
stays under the product it is filed under. -/
def seedVariantRow (productId : Uuid) (catalog : Catalog) (seed : SeedVariant) :
    Option Catalog :=
  match catalog.variants.rows.find? fun variant => seed.Names merchantId variant with
  | some _ => some (catalog.amendVariants (seed.change merchantId))
  | none => catalog.insertVariant? (seed.row merchantId draws productId)

def seedProduct (catalog : Catalog) (seed : SeedProduct) : Option Catalog := do
  let (product, written) ← seedProductRow merchantId draws seed catalog
  seed.variants.foldlM (seedVariantRow merchantId draws product.id) written

/-- `seed_catalog`, on the merchant that the slug names. -/
def seedCatalog (seeds : List SeedProduct) (catalog : Catalog) : Option Catalog :=
  seeds.foldlM (seedProduct merchantId draws) catalog

end Seeding

/-- `consume_stock`: take quantities off a merchant's shelf, as far as they are there. -/
def Catalog.consume (merchantId : Uuid) (quantities : Uuid → Nat) (catalog : Catalog) : Catalog :=
  catalog.amendVariants fun variant =>
    if variant.merchantId = merchantId then
      { variant.fields with
        inventoryQuantity := variant.inventoryQuantity -
          min (quantities variant.id) variant.inventoryQuantity }
    else variant.fields

end AgentRank.Commerce
