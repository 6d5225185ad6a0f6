import AgentRank.Commerce.Search

/-!
# What one merchant's buyers find

A read is scoped to a merchant.  What it finds is a matter of the merchant's own products and
variants, of everything they state but the attributes, and not of the order of the rows.
-/

namespace AgentRank.Commerce

open Constraints Relational Store

/-- A variant without its attributes. -/
def CatalogVariant.bare (variant : CatalogVariant) : CatalogVariant :=
  { variant with attributes := { items := [], keysNodup := List.nodup_nil } }

/-- A product with its shown variants, each without its attributes. -/
def ProductMatch.bare (found : ProductMatch) : ProductMatch :=
  { found with eligibleVariants := found.eligibleVariants.map CatalogVariant.bare }

/-- The catalog, as the buyers of one merchant read it. -/
structure MerchantSurface where
  merchant : MerchantSummary
  catalog : Catalog

namespace MerchantSurface

variable (surface : MerchantSurface)

/-- The products of the merchant. -/
def products : List CatalogProduct :=
  surface.catalog.products.rows.filter fun product => product.merchantId == surface.merchant.id

/-- The variants of the merchant. -/
def variants : List CatalogVariant :=
  surface.catalog.variants.rows.filter fun variant => variant.merchantId == surface.merchant.id

variable {surface}

variable {product : CatalogProduct}

theorem mem_products_iff :
    product ∈ surface.products ↔
      product ∈ surface.catalog.products ∧ product.merchantId = surface.merchant.id := by
  rw [products, List.mem_filter, beq_iff_eq]
  rfl

variable {variant : CatalogVariant}

theorem mem_variants_iff :
    variant ∈ surface.variants ↔
      variant ∈ surface.catalog.variants ∧ variant.merchantId = surface.merchant.id := by
  rw [variants, List.mem_filter, beq_iff_eq]
  rfl

/-- Products of a merchant with the same identifier are the same. -/
theorem product_eq {first second : CatalogProduct} (firstMem : first ∈ surface.products)
    (secondMem : second ∈ surface.products) (same : first.id = second.id) : first = second :=
  Table.eq_of_key_eq (mem_products_iff.mp firstMem).1 (mem_products_iff.mp secondMem).1 same

theorem mem_of_find {id : Uuid}
    (found : (surface.products.find? fun product => product.id == id) = some product) :
    product ∈ surface.products ∧ product.id = id := by
  have isNamed := List.find?_some found
  exact ⟨List.mem_of_find?_eq_some found, beq_iff_eq.mp isNamed⟩

/-- Variants of a merchant with the same SKU are the same. -/
theorem variant_eq {first second : CatalogVariant} (firstMem : first ∈ surface.variants)
    (secondMem : second ∈ surface.variants) (same : first.sku = second.sku) : first = second := by
  rcases mem_variants_iff.mp firstMem with ⟨firstRow, firstOwn⟩
  rcases mem_variants_iff.mp secondMem with ⟨secondRow, secondOwn⟩
  apply surface.catalog.skus first firstRow second secondRow
  rw [CatalogVariant.mark, CatalogVariant.mark, firstOwn, secondOwn, same]

/-- The variants of a merchant are told apart by what they are ordered by. -/
theorem variant_eq_of_orderKey {first second : CatalogVariant} (firstMem : first ∈ surface.variants)
    (secondMem : second ∈ surface.variants) (same : first.orderKey = second.orderKey) :
    first = second :=
  variant_eq firstMem secondMem (congrArg Prod.snd same)

/-- What is filed under a product of the merchant is the merchant's. -/
theorem owned_of_filed (variantMem : variant ∈ surface.catalog.variants)
    (productMem : product ∈ surface.products) (isFiled : variant.productId = product.id) :
    variant.merchantId = surface.merchant.id := by
  rcases surface.catalog.filed variant variantMem with ⟨filed, filedMem, sameId, sameMerchant⟩
  rcases mem_products_iff.mp productMem with ⟨row, isOwn⟩
  have same : filed = product := Table.eq_of_key_eq filedMem row (sameId.trans isFiled)
  rw [← sameMerchant, same, isOwn]

/-! ## Reads of the merchant's own rows -/

theorem filter_filed (productMem : product ∈ surface.products) (keep : CatalogVariant → Bool) :
    (surface.catalog.variants.rows.filter fun variant =>
        variant.productId == product.id && keep variant) =
      surface.variants.filter fun variant => variant.productId == product.id && keep variant := by
  rw [variants, List.filter_filter]
  refine List.filter_congr fun variant member => ?_
  by_cases isFiled : variant.productId = product.id
  · have isOwn := owned_of_filed member productMem isFiled
    simp [isFiled, isOwn]
  · simp [isFiled]

theorem any_filed (productMem : product ∈ surface.products) (keep : CatalogVariant → Bool) :
    (surface.catalog.variants.rows.any fun variant =>
        variant.productId == product.id && keep variant) =
      surface.variants.any fun variant => variant.productId == product.id && keep variant := by
  have same := congrArg (List.any · fun _ => true) (filter_filed productMem keep)
  simpa only [List.any_filter, Bool.and_true] using same

variable {keep : CatalogVariant → Bool}

section Finding

variable [TextColumns]

/-- The variants of a product that a read shows, in their order. -/
def variantsOf (surface : MerchantSurface) (keep : CatalogVariant → Bool)
    (product : CatalogProduct) : List CatalogVariant :=
  inOrder (surface.variants.filter fun variant => variant.productId == product.id && keep variant)

/-- The products of the merchant that match and have an eligible variant. -/
def hits (surface : MerchantSurface) (criteria : ProductSearchCriteria) : List CatalogProduct :=
  (productOrder.sortBy CatalogProduct.orderKey (surface.products.filter fun product =>
    ((criteria.includeInactive || product.isActive) &&
      criteria.tokens.all (matchesToken product)) && surface.variants.any fun variant =>
        variant.productId == product.id && variantConditions criteria variant)).take
    (min (max criteria.limit 1) maxSearchLimit)

theorem mem_products_of_hit {criteria : ProductSearchCriteria}
    (isHit : product ∈ surface.hits criteria) : product ∈ surface.products := by
  have sorted := List.mem_of_mem_take isHit
  rw [KeyOrder.mem_sortBy] at sorted
  exact (List.mem_filter.mp sorted).1

theorem mem_variants_of_shown (isShown : variant ∈ surface.variantsOf keep product) :
    variant ∈ surface.variants := by
  rw [variantsOf, inOrder, KeyOrder.mem_sortBy] at isShown
  exact (List.mem_filter.mp isShown).1

/-- The variants of all products are read at once and divided among them. -/
theorem filter_inOrder {among : CatalogVariant → Bool} (productMem : product ∈ surface.products)
    (isAmong : ∀ variant : CatalogVariant, variant.productId = product.id → among variant = true) :
    (inOrder (surface.catalog.variants.rows.filter fun variant =>
        among variant && keep variant)).filter (fun variant => variant.productId == product.id) =
      surface.variantsOf keep product := by
  have divided : ((surface.catalog.variants.rows.filter fun variant =>
      among variant && keep variant).filter fun variant => variant.productId == product.id) =
      surface.variants.filter fun variant => variant.productId == product.id && keep variant := by
    rw [List.filter_filter, ← filter_filed productMem]
    refine List.filter_congr fun variant _ => ?_
    by_cases isFiled : variant.productId = product.id
    · rw [isAmong variant isFiled, Bool.true_and]
    · rw [beq_false_of_ne isFiled, Bool.false_and, Bool.false_and]
  rw [variantsOf, inOrder, KeyOrder.filter_sortBy, divided]
  · rfl
  · rw [divided]
    intro first firstMem second secondMem
    exact variant_eq_of_orderKey (List.mem_filter.mp firstMem).1 (List.mem_filter.mp secondMem).1

/-- A search finds the merchant's hits, each with its eligible variants. -/
theorem searchProducts_eq {criteria : ProductSearchCriteria}
    (isScoped : criteria.merchantId = surface.merchant.id) :
    searchProducts surface.catalog criteria =
      (surface.hits criteria).map fun product =>
        { product := product
          eligibleVariants := surface.variantsOf (variantConditions criteria) product } := by
  have matching : (surface.catalog.products.rows.filter fun product =>
      productConditions criteria product && surface.catalog.variants.rows.any fun variant =>
        variant.productId == product.id && variantConditions criteria variant) =
      surface.products.filter fun product =>
        ((criteria.includeInactive || product.isActive) &&
          criteria.tokens.all (matchesToken product)) && surface.variants.any fun variant =>
            variant.productId == product.id && variantConditions criteria variant := by
    rw [products, List.filter_filter]
    refine List.filter_congr fun product member => ?_
    by_cases isOwn : product.merchantId = surface.merchant.id
    · rw [any_filed (mem_products_iff.mpr ⟨member, isOwn⟩)]
      simp [productConditions, isScoped, isOwn]
    · rw [productConditions, isScoped, beq_false_of_ne isOwn]
      simp only [Bool.false_and, Bool.and_false]
  have found : (productOrder.sortBy CatalogProduct.orderKey
      (surface.catalog.products.rows.filter fun product =>
        productConditions criteria product && surface.catalog.variants.rows.any fun variant =>
          variant.productId == product.id && variantConditions criteria variant)).take
      (min (max criteria.limit 1) maxSearchLimit) = surface.hits criteria := by
    rw [matching, hits]
  unfold searchProducts
  dsimp only
  rw [found]
  refine List.map_congr_left fun product isHit => ?_
  rw [filter_inOrder (mem_products_of_hit isHit)]
  intro variant isFiled
  rw [isFiled, List.contains_iff_mem]
  exact List.mem_map_of_mem isHit

/-- A product is read from the merchant's own. -/
theorem getProduct_eq (id : Uuid) :
    getProduct surface.catalog id surface.merchant.id =
      (surface.products.find? fun product => product.id == id).map fun product =>
        { product := product
          eligibleVariants := surface.variantsOf (fun _ => true) product } := by
  have sameFind : (surface.catalog.products.rows.find? fun product =>
      product.id == id && product.merchantId == surface.merchant.id) =
      surface.products.find? fun product => product.id == id := by
    rw [products, List.find?_filter]
    refine congrArg (List.find? · surface.catalog.products.rows) (funext fun product => ?_)
    rw [Bool.decide_and, Bool.decide_eq_true, Bool.decide_eq_true, Bool.and_comm]
  rw [getProduct, sameFind]
  cases found : surface.products.find? fun product => product.id == id with
  | none => rfl
  | some product =>
      have filed := filter_filed (List.mem_of_find?_eq_some found) fun _ => true
      simp only [Bool.and_true] at filed
      simp only [Option.map_some, variantsOf, Bool.and_true, filed]

end Finding

/-! ## Catalogs that differ in attributes -/

/-- Two merchant catalogs state the same products and variants, in any order of their rows, and
may differ in the attributes of the variants. -/
structure AgreeButAttributes (first second : MerchantSurface) : Prop where
  merchant : first.merchant = second.merchant
  products : first.products.Perm second.products
  variants : (first.variants.map CatalogVariant.bare).Perm (second.variants.map CatalogVariant.bare)

namespace AgreeButAttributes

variable {first second : MerchantSurface}

/-- What does not look at attributes finds a variant in both catalogs or in none. -/
theorem any_eq (agree : AgreeButAttributes first second)
    (unseen : ∀ variant, keep variant.bare = keep variant) :
    first.variants.any keep = second.variants.any keep := by
  have read : ∀ surface : MerchantSurface,
      (surface.variants.map CatalogVariant.bare).any keep = surface.variants.any keep := by
    intro surface
    rw [List.any_map]
    exact congrArg surface.variants.any (funext unseen)
  rw [← read first, ← read second]
  exact agree.variants.any_eq

variable [TextColumns]

theorem hits_eq (agree : AgreeButAttributes first second) (criteria : ProductSearchCriteria) :
    first.hits criteria = second.hits criteria := by
  have sameEligible : ∀ product : CatalogProduct,
      (first.variants.any fun variant =>
          variant.productId == product.id && variantConditions criteria variant) =
        second.variants.any fun variant =>
          variant.productId == product.id && variantConditions criteria variant :=
    fun product => agree.any_eq fun _ => rfl
  simp only [hits, sameEligible]
  congr 1
  apply KeyOrder.sortBy_eq_of_perm
  · intro one oneMem other otherMem same
    exact product_eq (List.mem_filter.mp oneMem).1 (List.mem_filter.mp otherMem).1
      (congrArg Prod.snd same)
  · exact agree.products.filter _

/-- The variants of a product are the same, in the same order, but for their attributes. -/
theorem variantsOf_eq (agree : AgreeButAttributes first second)
    (unseen : ∀ variant, keep variant.bare = keep variant) (product : CatalogProduct) :
    (first.variantsOf keep product).map CatalogVariant.bare =
      (second.variantsOf keep product).map CatalogVariant.bare := by
  have read : ∀ surface : MerchantSurface,
      (surface.variantsOf keep product).map CatalogVariant.bare =
        inOrder ((surface.variants.map CatalogVariant.bare).filter fun variant =>
          variant.productId == product.id && keep variant) := by
    intro surface
    have sameFilter : (fun variant : CatalogVariant =>
        variant.productId == product.id && keep variant) ∘ CatalogVariant.bare =
        fun variant => variant.productId == product.id && keep variant :=
      funext fun variant => congrArg (variant.productId == product.id && ·) (unseen variant)
    rw [List.filter_map, sameFilter]
    have sameKey : ∀ variant : CatalogVariant, variant.bare.orderKey = variant.orderKey :=
      fun _ => rfl
    exact variantOrder.map_sortBy CatalogVariant.orderKey sameKey _
  rw [read, read]
  apply KeyOrder.sortBy_eq_of_perm
  · intro one oneMem other otherMem same
    obtain ⟨oneRow, oneRowMem, rfl⟩ := List.mem_map.mp (List.mem_filter.mp oneMem).1
    obtain ⟨otherRow, otherRowMem, rfl⟩ := List.mem_map.mp (List.mem_filter.mp otherMem).1
    rw [variant_eq_of_orderKey oneRowMem otherRowMem same]
  · exact agree.variants.filter _

omit [TextColumns] in
theorem find?_eq (agree : AgreeButAttributes first second) (id : Uuid) :
    (first.products.find? fun product => product.id == id) =
      second.products.find? fun product => product.id == id := by
  cases found : first.products.find? fun product => product.id == id with
  | none =>
      symm
      rw [List.find?_eq_none] at found ⊢
      exact fun product member => found product (agree.products.mem_iff.mpr member)
  | some product =>
      obtain ⟨member, isNamed⟩ := mem_of_find found
      have otherMem := agree.products.mem_iff.mp member
      cases other : second.products.find? fun product => product.id == id with
      | none =>
          have absent := List.find?_eq_none.mp other product otherMem
          exact absurd (beq_iff_eq.mpr isNamed) absent
      | some twin =>
          obtain ⟨twinMem, twinNamed⟩ := mem_of_find other
          rw [product_eq otherMem twinMem (isNamed.trans twinNamed.symm)]

theorem searchProducts_eq (agree : AgreeButAttributes first second)
    (request : ProductSearchRequest) :
    (searchProducts first.catalog (request.toCriteria first.merchant.id)).map ProductMatch.bare =
      (searchProducts second.catalog (request.toCriteria second.merchant.id)).map
        ProductMatch.bare := by
  rw [MerchantSurface.searchProducts_eq rfl, MerchantSurface.searchProducts_eq rfl,
    ← agree.merchant, ← agree.hits_eq, List.map_map, List.map_map]
  refine List.map_congr_left fun product _ => congrArg (ProductMatch.mk product) ?_
  exact agree.variantsOf_eq (fun _ => rfl) product

theorem getProduct_eq (agree : AgreeButAttributes first second) (id : Uuid) :
    (getProduct first.catalog id first.merchant.id).map ProductMatch.bare =
      (getProduct second.catalog id second.merchant.id).map ProductMatch.bare := by
  rw [MerchantSurface.getProduct_eq, MerchantSurface.getProduct_eq, agree.find?_eq, Option.map_map,
    Option.map_map]
  refine congrArg (Option.map · _) (funext fun product => congrArg (ProductMatch.mk product) ?_)
  exact agree.variantsOf_eq (fun _ => rfl) product

end AgreeButAttributes

end MerchantSurface

section Views

variable {presented : CatalogVariant → Option Json}
  (unseen : ∀ variant : CatalogVariant, presented variant.bare = presented variant)

include unseen

theorem productView_bare (name : String) (merchant : MerchantSummary) (found : ProductMatch) :
    productView presented name merchant found.bare = productView presented name merchant found := by
  have sameVariant : ∀ variant : CatalogVariant,
      variantView presented variant.bare = variantView presented variant := by
    intro variant
    rw [variantView, unseen]
    rfl
  have sameVariants : (found.eligibleVariants.map CatalogVariant.bare).map
      (variantView presented) = found.eligibleVariants.map (variantView presented) := by
    rw [List.map_map]
    exact List.map_congr_left fun variant _ => sameVariant variant
  rw [productView, productView, ProductMatch.bare, sameVariants]

theorem productSearchResponse_bare (merchant : MerchantSummary) (found : List ProductMatch)
    (limit : Nat) :
    productSearchResponse presented merchant (found.map ProductMatch.bare) limit =
      productSearchResponse presented merchant found limit := by
  have sameResults : (found.map ProductMatch.bare).map (productSearchResult presented merchant) =
      found.map (productSearchResult presented merchant) := by
    rw [List.map_map]
    exact List.map_congr_left fun one _ => productView_bare unseen _ _ one
  rw [productSearchResponse, productSearchResponse, sameResults, List.length_map]

end Views

end AgentRank.Commerce
