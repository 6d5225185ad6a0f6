import AgentRank.Commerce.Catalog
import AgentRank.Relational.Ordering

/-!
# Searching the catalog

This module models `commerce/search.py`, the reads of `commerce/repository.py` and the views of
`commerce/schemas.py`: what a query selects, in which order, and the documents that answer it.

How the database matches a text and how it orders texts are parameters.
-/

namespace AgentRank.Commerce

open Constraints Relational Store Text

def defaultSearchLimit : Nat := 20

def maxSearchLimit : Nat := 100

def maxQueryTokens : Nat := 10

/-- What a caller is looking for.  A price ceiling says which currency it is in. -/
structure ProductSearchRequest where
  query : Option String := none
  maxPriceAmountMinor : Option Nat := none
  currency : Option String := none
  includeInactive : Bool := false
  limit : Nat := defaultSearchLimit
  isQuery : query.all fun text => decide (text.length ≤ 200) := by rfl
  isCurrency : currency.all isCurrencyCode := by rfl
  isLimit : 1 ≤ limit ∧ limit ≤ maxSearchLimit := by decide
  isPriced : maxPriceAmountMinor.isSome = true → currency.isSome = true := by decide

structure ProductSearchCriteria where
  merchantId : Uuid
  query : Option String
  maxPriceAmountMinor : Option Nat
  currency : Option String
  includeInactive : Bool
  limit : Nat
  isPriced : maxPriceAmountMinor.isSome = true → currency.isSome = true

def ProductSearchRequest.toCriteria (request : ProductSearchRequest) (merchantId : Uuid) :
    ProductSearchCriteria where
  merchantId := merchantId
  query := request.query
  maxPriceAmountMinor := request.maxPriceAmountMinor
  currency := request.currency
  includeInactive := request.includeInactive
  limit := request.limit
  isPriced := request.isPriced

/-- `str.split()`. -/
def words (text : String) : List String :=
  ((text.toList.splitOnP isSpace).filter fun word => !word.isEmpty).map String.ofList

/-- The terms that must all match. -/
def ProductSearchCriteria.tokens (criteria : ProductSearchCriteria) : List String :=
  match criteria.query with
  | none => []
  | some query => (words query).take maxQueryTokens

/-- `_escape_like`. -/
def escapeLike (term : String) : String :=
  String.ofList (term.toList.flatMap fun char =>
    if char = '\\' ∨ char = '%' ∨ char = '_' then ['\\', char] else [char])

/-- The text operators of the database. -/
class TextColumns where
  /-- `text ILIKE pattern ESCAPE '\'`. -/
  ilike : String → String → Bool
  collation : KeyOrder String

section Queries

variable [TextColumns]

/-- `_variant_conditions`. -/
def variantConditions (criteria : ProductSearchCriteria) (variant : CatalogVariant) : Bool :=
  (criteria.includeInactive || variant.isActive) &&
    criteria.currency.all (fun currency => variant.currency == currency) &&
    criteria.maxPriceAmountMinor.all fun ceiling => variant.priceAmountMinor ≤ ceiling

/-- Every token is found in one of the texts of a product. -/
def matchesToken (product : CatalogProduct) (token : String) : Bool :=
  let pattern := "%" ++ escapeLike token ++ "%"
  TextColumns.ilike product.title pattern ||
    product.description.any (fun text => TextColumns.ilike text pattern) ||
    product.category.any fun text => TextColumns.ilike text pattern

/-- `_product_conditions`. -/
def productConditions (criteria : ProductSearchCriteria) (product : CatalogProduct) : Bool :=
  product.merchantId == criteria.merchantId && (criteria.includeInactive || product.isActive) &&
    criteria.tokens.all (matchesToken product)

def uuidOrder : KeyOrder Uuid where
  le first second := decide (first ≤ second)
  total first second := by
    rw [Bool.or_eq_true, decide_eq_true_eq, decide_eq_true_eq]
    exact Nat.le_total first.bits.toNat second.bits.toNat
  trans first second third less more := by
    rw [decide_eq_true_eq] at *
    exact Nat.le_trans (less : first.bits.toNat ≤ second.bits.toNat) more
  antisymm first second less more := by
    rw [decide_eq_true_eq] at *
    have sameNat : first.bits.toNat = second.bits.toNat := Nat.le_antisymm less more
    cases first
    cases second
    exact congrArg Uuid.mk (BitVec.eq_of_toNat_eq sameNat)

/-- `order_by(Product.title, Product.id)`. -/
def productOrder : KeyOrder (String × Uuid) :=
  TextColumns.collation.andThen uuidOrder

def CatalogProduct.orderKey (product : CatalogProduct) : String × Uuid :=
  (product.title, product.id)

/-- `order_by(Variant.price_amount_minor, Variant.sku)`. -/
def variantOrder : KeyOrder (Nat × String) :=
  (KeyOrder.natural Nat).andThen TextColumns.collation

def CatalogVariant.orderKey (variant : CatalogVariant) : Nat × String :=
  (variant.priceAmountMinor, variant.sku)

def inOrder (variants : List CatalogVariant) : List CatalogVariant :=
  variantOrder.sortBy CatalogVariant.orderKey variants

/-- A product with the variants that are shown of it. -/
structure ProductMatch where
  product : CatalogProduct
  eligibleVariants : List CatalogVariant

/-- `search_products`: the products with an eligible variant, then their eligible variants. -/
def searchProducts (catalog : Catalog) (criteria : ProductSearchCriteria) : List ProductMatch :=
  let limit := min (max criteria.limit 1) maxSearchLimit
  let products := (productOrder.sortBy CatalogProduct.orderKey
    (catalog.products.rows.filter fun product =>
      productConditions criteria product && catalog.variants.rows.any fun variant =>
        variant.productId == product.id && variantConditions criteria variant)).take limit
  let variants := inOrder (catalog.variants.rows.filter fun variant =>
    (products.map fun product => product.id).contains variant.productId &&
      variantConditions criteria variant)
  products.map fun product =>
    { product := product
      eligibleVariants := variants.filter fun variant => variant.productId == product.id }

/-- `get_product`: one product of a merchant with every variant it has. -/
def getProduct (catalog : Catalog) (id merchantId : Uuid) : Option ProductMatch :=
  (catalog.products.rows.find? fun product =>
      product.id == id && product.merchantId == merchantId).map fun product =>
    { product := product
      eligibleVariants :=
        inOrder (catalog.variants.rows.filter fun variant => variant.productId == product.id) }

end Queries

structure MerchantSummary where
  id : Uuid
  slug : String
  name : String

def boolean (value : Bool) : Json :=
  .scalar (.boolean value)

def MerchantSummary.document (merchant : MerchantSummary) : Json :=
  .object
    [("id", Payload.uuid merchant.id), ("slug", Payload.text merchant.slug),
      ("name", Payload.text merchant.name)]

section Documents

-- What stands under the attributes of a variant.  The catalog's own views write its dictionary.
variable (presented : CatalogVariant → Option Json)

/-- `VariantView`. -/
def variantView (variant : CatalogVariant) : Json :=
  .object
    ([("id", Payload.uuid variant.id), ("sku", Payload.text variant.sku),
      ("label", Payload.optionalText variant.label)] ++
    (presented variant).toList.map (fun attributes => ("attributes", attributes)) ++
    [("price_amount_minor", Payload.number variant.priceAmountMinor),
      ("currency", Payload.text variant.currency),
      ("inventory_quantity", Payload.number variant.inventoryQuantity),
      ("is_active", boolean variant.isActive)])

/-- `ProductIdentity`. -/
def productIdentity (merchant : MerchantSummary) (product : CatalogProduct) :
    List (String × Json) :=
  [("id", Payload.uuid product.id), ("external_id", Payload.text product.externalId),
    ("title", Payload.text product.title),
    ("description", Payload.optionalText product.description),
    ("category", Payload.optionalText product.category), ("is_active", boolean product.isActive),
    ("merchant", merchant.document)]

/-- `ProductDetail` and `ProductSearchResult`, which name their variants differently. -/
def productView (name : String) (merchant : MerchantSummary) (found : ProductMatch) : Json :=
  .object
    (productIdentity merchant found.product ++
      [(name, .array (found.eligibleVariants.map (variantView presented)))])

def productDetail (merchant : MerchantSummary) (found : ProductMatch) : Json :=
  productView presented "variants" merchant found

def productSearchResult (merchant : MerchantSummary) (found : ProductMatch) : Json :=
  productView presented "eligible_variants" merchant found

/-- `ProductSearchResponse.from_matches`. -/
def productSearchResponse (merchant : MerchantSummary) (found : List ProductMatch) (limit : Nat) :
    Json :=
  .object
    [("results", .array (found.map (productSearchResult presented merchant))),
      ("count", Payload.number found.length), ("limit", Payload.number limit)]

end Documents

/-- `VariantView.from_model` copies the attribute dictionary. -/
def catalogAttributes (variant : CatalogVariant) : Option Json :=
  some (.object variant.attributes.items)

end AgentRank.Commerce
