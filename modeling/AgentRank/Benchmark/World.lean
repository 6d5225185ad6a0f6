import AgentRank.Benchmark.Catalog
import AgentRank.Commerce.Catalog
import AgentRank.Representation.Definitions

/-!
# Preparing a benchmark world

This module models the catalog half of `benchmark/environment.py`, together with the reading
and the pin of `benchmark/runner.py` and `benchmark/catalog.py`.

Preparation seeds what the fixture names and withdraws what it does not.  A prepared catalog
is settled: preparing it again changes nothing, and preparing it after nothing but its stock
has moved puts back every row as it was.
-/

namespace AgentRank.Benchmark

open Commerce Constraints Relational Representation Store

/-- One versioned merchant world, as authored. -/
structure BenchmarkFixture where
  products : List SeedProduct
  externalIdsNodup : (products.map SeedProduct.externalId).Nodup
  skusNodup : ((products.flatMap SeedProduct.variants).map SeedVariant.sku).Nodup

def BenchmarkFixture.variants (fixture : BenchmarkFixture) : List SeedVariant :=
  fixture.products.flatMap SeedProduct.variants

def BenchmarkFixture.skus (fixture : BenchmarkFixture) : List String :=
  fixture.variants.map SeedVariant.sku

def BenchmarkFixture.externalIds (fixture : BenchmarkFixture) : List String :=
  fixture.products.map SeedProduct.externalId

/-- A fixture that is registered as the world of a merchant. -/
structure BenchmarkEnvironment where
  merchantId : Uuid
  fixture : BenchmarkFixture

namespace BenchmarkEnvironment

variable (environment : BenchmarkEnvironment)

/-- The merchant has a variant that the fixture does not name. -/
def Leaves (variant : CatalogVariant) : Prop :=
  variant.merchantId = environment.merchantId ∧ variant.sku ∉ environment.fixture.skus

def LeavesProduct (product : CatalogProduct) : Prop :=
  product.merchantId = environment.merchantId ∧
    product.externalId ∉ environment.fixture.externalIds

instance (variant : CatalogVariant) : Decidable (environment.Leaves variant) :=
  inferInstanceAs (Decidable (_ ∧ _))

instance (product : CatalogProduct) : Decidable (environment.LeavesProduct product) :=
  inferInstanceAs (Decidable (_ ∧ _))

/-- `_withdraw_unnamed`. -/
def withdrawUnnamed (catalog : Catalog) : Catalog :=
  (catalog.amendVariants fun variant =>
    if environment.Leaves variant then
      { variant.fields with isActive := false, inventoryQuantity := 0 }
    else variant.fields).amendProducts fun product =>
      if environment.LeavesProduct product then { product.fields with isActive := false }
      else product.fields

/-- What `prepare` writes over the catalog of a registered merchant. -/
def restore (draws : Draws) (catalog : Catalog) : Option Catalog :=
  (seedCatalog environment.merchantId draws environment.fixture.products catalog).map
    environment.withdrawUnnamed

end BenchmarkEnvironment

/-- `BenchmarkRunService.catalog`: a variant of a withdrawn product is not for sale either. -/
def catalogEntries (merchantId : Uuid) (catalog : Catalog) : List CatalogEntry :=
  (catalog.variants.rows.filter fun variant => variant.merchantId = merchantId).filterMap
    fun variant => (catalog.products.get? variant.productId).map fun product =>
      { variantId := variant.id
        sku := variant.sku
        productCategory := product.category
        attributes := variant.attributes
        priceAmountMinor := variant.priceAmountMinor
        currency := variant.currency
        inventoryQuantity := variant.inventoryQuantity
        isActive := variant.isActive && product.isActive
        isCurrency := variant.isCurrency }

/-- An entry as it enters the pin. -/
structure EntryPayload where
  sku : String
  category : Option String
  attributes : Attributes
  priceAmountMinor : Nat
  currency : String
  inventoryQuantity : Nat
  isActive : Bool

def CatalogEntry.toPayload (entry : CatalogEntry) : EntryPayload where
  sku := entry.sku
  category := entry.productCategory
  attributes := entry.attributes
  priceAmountMinor := entry.priceAmountMinor
  currency := entry.currency
  inventoryQuantity := entry.inventoryQuantity
  isActive := entry.isActive

/-- The digest of the canonical text of a payload. -/
class CatalogDigest where
  digest : Mapping EntryPayload → ContentHash

def catalogContentHash [CatalogDigest] (entries : List CatalogEntry) : ContentHash :=
  CatalogDigest.digest (.ofEntries (entries.map fun entry => (entry.sku, entry.toPayload)))

/-! ## What seeding leaves -/

variable {seed : SeedVariant} {variant : CatalogVariant} {productId : Uuid}

section Seeding

variable {merchantId : Uuid} {draws : Draws} {catalog final : Catalog}

/-- The catalog says what a seed says. -/
def ShowsProduct (merchantId : Uuid) (catalog : Catalog) (seed : SeedProduct) : Prop :=
  ∃ product ∈ catalog.products, seed.Names merchantId product ∧ product.fields = seed.fields

def ShowsVariant (merchantId : Uuid) (catalog : Catalog) (seed : SeedVariant) : Prop :=
  ∃ variant ∈ catalog.variants, seed.Names merchantId variant ∧ variant.fields = seed.fields

theorem write_change_of_names (names : seed.Names merchantId variant) :
    variant.write (seed.change merchantId variant) = variant.write seed.fields := by
  rw [SeedVariant.change, if_pos names]

theorem write_change_of_not_names (unnamed : ¬seed.Names merchantId variant) :
    variant.write (seed.change merchantId variant) = variant := by
  rw [SeedVariant.change, if_neg unnamed]
  exact CatalogVariant.write_fields rfl

/-- A seeded variant is shown, and no variant that the seed does not name is touched. -/
theorem seedVariantRow_eq_some
    (seeded : seedVariantRow merchantId draws productId catalog seed = some final) :
    final.products = catalog.products ∧ ShowsVariant merchantId final seed ∧
      ∀ variant ∈ catalog.variants, ¬seed.Names merchantId variant →
        variant ∈ final.variants := by
  unfold seedVariantRow at seeded
  split at seeded
  · next found isFound =>
      cases seeded
      have names : seed.Names merchantId found := by
        simpa using List.find?_some isFound
      refine ⟨rfl, ⟨found.write seed.fields, ?_, names, rfl⟩, ?_⟩
      · exact Catalog.mem_amendVariants_iff.mpr
          ⟨found, List.mem_of_find?_eq_some isFound, write_change_of_names names⟩
      · intro variant member unnamed
        exact Catalog.mem_amendVariants_of_fixed member (if_neg unnamed).symm
  · rcases Catalog.insertVariant?_eq_some seeded with ⟨sameProducts, rowsEq⟩
    refine ⟨sameProducts, ⟨seed.row merchantId draws productId, ?_, ⟨rfl, rfl⟩, rfl⟩, ?_⟩
    · simp [Table.mem_def, rowsEq]
    · intro variant member _
      rw [Table.mem_def, rowsEq]
      exact List.mem_append_left _ member

theorem seedProductRow_eq_some {seed : SeedProduct} {product : CatalogProduct}
    (seeded : seedProductRow merchantId draws seed catalog = some (product, final)) :
    final.variants = catalog.variants ∧ ShowsProduct merchantId final seed ∧
      ∀ other ∈ catalog.products, ¬seed.Names merchantId other → other ∈ final.products := by
  unfold seedProductRow at seeded
  split at seeded
  · next found isFound =>
      cases seeded
      have names : seed.Names merchantId found := by
        simpa using List.find?_some isFound
      refine ⟨rfl, ⟨found.write seed.fields, ?_, names, rfl⟩, ?_⟩
      · refine Catalog.mem_amendProducts_iff.mpr
          ⟨found, List.mem_of_find?_eq_some isFound, ?_⟩
        rw [SeedProduct.change, if_pos names]
      · intro other member unnamed
        exact Catalog.mem_amendProducts_of_fixed member (if_neg unnamed).symm
  · rcases Option.map_eq_some_iff.mp seeded with ⟨inserted, isInserted, pairEq⟩
    cases pairEq
    rcases Catalog.insertProduct?_eq_some isInserted with ⟨rowsEq, sameVariants⟩
    refine ⟨sameVariants, ⟨seed.row merchantId draws, ?_, ⟨rfl, rfl⟩, rfl⟩, ?_⟩
    · simp [Table.mem_def, rowsEq]
    · intro other member _
      rw [Table.mem_def, rowsEq]
      exact List.mem_append_left _ member

/-- Seeding the variants of a product shows them all, and touches none but them. -/
theorem seedVariants_eq_some {seeds : List SeedVariant}
    (distinct : (seeds.map SeedVariant.sku).Nodup)
    (seeded : seeds.foldlM (seedVariantRow merchantId draws productId) catalog = some final) :
    final.products = catalog.products ∧ (∀ seed ∈ seeds, ShowsVariant merchantId final seed) ∧
      ∀ variant ∈ catalog.variants, (∀ seed ∈ seeds, ¬seed.Names merchantId variant) →
        variant ∈ final.variants := by
  induction seeds generalizing catalog with
  | nil =>
      cases seeded
      exact ⟨rfl, nofun, fun _ member _ => member⟩
  | cons seed rest ih =>
      rw [List.map_cons, List.nodup_cons] at distinct
      rw [List.foldlM_cons] at seeded
      rcases Option.bind_eq_some_iff.mp seeded with ⟨middle, first, later⟩
      rcases seedVariantRow_eq_some first with ⟨sameFirst, ⟨shown, shownMem, names, states⟩, kept⟩
      rcases ih distinct.2 later with ⟨sameLater, shows, keptLater⟩
      refine ⟨sameLater.trans sameFirst, ?_, ?_⟩
      · refine List.forall_mem_cons.mpr ⟨⟨shown, ?_, names, states⟩, shows⟩
        apply keptLater shown shownMem
        intro other otherMem otherNames
        apply distinct.1
        rw [← names.2, otherNames.2]
        exact List.mem_map_of_mem otherMem
      · intro variant member unnamed
        rw [List.forall_mem_cons] at unnamed
        exact keptLater variant (kept variant member unnamed.1) unnamed.2

/-- Seeding shows every product and every variant, and touches none but them. -/
theorem seedCatalog_eq_some {seeds : List SeedProduct}
    (externalIds : (seeds.map SeedProduct.externalId).Nodup)
    (skus : ((seeds.flatMap SeedProduct.variants).map SeedVariant.sku).Nodup)
    (seeded : seedCatalog merchantId draws seeds catalog = some final) :
    (∀ seed ∈ seeds, ShowsProduct merchantId final seed) ∧
      (∀ seed ∈ seeds.flatMap SeedProduct.variants, ShowsVariant merchantId final seed) ∧
      (∀ product ∈ catalog.products, (∀ seed ∈ seeds, ¬seed.Names merchantId product) →
        product ∈ final.products) ∧
      ∀ variant ∈ catalog.variants,
        (∀ seed ∈ seeds.flatMap SeedProduct.variants, ¬seed.Names merchantId variant) →
          variant ∈ final.variants := by
  unfold seedCatalog at seeded
  induction seeds generalizing catalog with
  | nil =>
      cases seeded
      exact ⟨nofun, nofun, fun _ member _ => member, fun _ member _ => member⟩
  | cons seed rest ih =>
      rw [List.map_cons, List.nodup_cons] at externalIds
      rw [List.flatMap_cons, List.map_append, List.nodup_append] at skus
      rw [List.foldlM_cons] at seeded
      rcases Option.bind_eq_some_iff.mp seeded with ⟨middle, first, later⟩
      rcases Option.bind_eq_some_iff.mp first with ⟨⟨product, written⟩, ofProduct, ofVariants⟩
      rcases seedProductRow_eq_some ofProduct with
        ⟨sameVariants, ⟨shown, shownMem, names, states⟩, keptProducts⟩
      rcases seedVariants_eq_some skus.1 ofVariants with ⟨sameProducts, shows, keptVariants⟩
      rcases ih externalIds.2 skus.2.1 later with
        ⟨showsProducts, showsVariants, keptRest, keptRestVariants⟩
      refine ⟨?_, ?_, ?_, ?_⟩
      · refine List.forall_mem_cons.mpr ⟨⟨shown, ?_, names, states⟩, showsProducts⟩
        apply keptRest shown (by rwa [sameProducts])
        intro other otherMem otherNames
        apply externalIds.1
        rw [← names.2, otherNames.2]
        exact List.mem_map_of_mem otherMem
      · rw [List.flatMap_cons]
        intro other otherMem
        rcases List.mem_append.mp otherMem with ofSeed | ofRest
        · rcases shows other ofSeed with ⟨variant, variantMem, variantNames, variantSays⟩
          refine ⟨variant, ?_, variantNames, variantSays⟩
          apply keptRestVariants variant variantMem
          intro another anotherMem anotherNames
          apply skus.2.2 other.sku (List.mem_map_of_mem ofSeed) another.sku
            (List.mem_map_of_mem anotherMem)
          rw [← variantNames.2, anotherNames.2]
        · exact showsVariants other ofRest
      · intro other member unnamed
        rw [List.forall_mem_cons] at unnamed
        apply keptRest other _ unnamed.2
        rw [sameProducts]
        exact keptProducts other member unnamed.1
      · rw [List.flatMap_cons]
        intro variant member unnamed
        rw [List.forall_mem_append] at unnamed
        apply keptRestVariants variant _ unnamed.2
        apply keptVariants variant _ unnamed.1
        rw [sameVariants]
        exact member

end Seeding

/-- The catalog is as the fixture describes it, and offers nothing else. -/
structure Settled (environment : BenchmarkEnvironment) (catalog : Catalog) : Prop where
  products : ∀ seed ∈ environment.fixture.products,
    ShowsProduct environment.merchantId catalog seed
  variants : ∀ seed ∈ environment.fixture.variants,
    ShowsVariant environment.merchantId catalog seed
  withdrawnProducts : ∀ product ∈ catalog.products, environment.LeavesProduct product →
    product.isActive = false
  withdrawnVariants : ∀ variant ∈ catalog.variants, environment.Leaves variant →
    variant.isActive = false ∧ variant.inventoryQuantity = 0

variable {environment : BenchmarkEnvironment} {draws : Draws} {base catalog final : Catalog}

theorem not_leaves_of_names (ofFixture : seed ∈ environment.fixture.variants)
    (names : seed.Names environment.merchantId variant) : ¬environment.Leaves variant := by
  rintro ⟨_, unnamed⟩
  apply unnamed
  rw [names.2]
  exact List.mem_map_of_mem ofFixture

theorem not_leavesProduct_of_names {seed : SeedProduct} {product : CatalogProduct}
    (ofFixture : seed ∈ environment.fixture.products)
    (names : seed.Names environment.merchantId product) :
    ¬environment.LeavesProduct product := by
  rintro ⟨_, unnamed⟩
  apply unnamed
  rw [names.2]
  exact List.mem_map_of_mem ofFixture

/-- A prepared catalog is settled. -/
theorem settled_of_restore (restored : environment.restore draws catalog = some final) :
    Settled environment final := by
  rcases Option.map_eq_some_iff.mp restored with ⟨seeded, isSeeded, rfl⟩
  rcases seedCatalog_eq_some environment.fixture.externalIdsNodup environment.fixture.skusNodup
    isSeeded with ⟨showsProducts, showsVariants, _, _⟩
  constructor
  · intro seed member
    rcases showsProducts seed member with ⟨product, found, names, states⟩
    refine ⟨product, Catalog.mem_amendProducts_of_fixed found ?_, names, states⟩
    exact (if_neg (not_leavesProduct_of_names member names)).symm
  · intro seed member
    rcases showsVariants seed member with ⟨variant, found, names, states⟩
    refine ⟨variant, Catalog.mem_amendVariants_of_fixed found ?_, names, states⟩
    exact (if_neg (not_leaves_of_names member names)).symm
  · intro product member leaves
    rcases Catalog.mem_amendProducts_iff.mp member with ⟨old, _, rfl⟩
    have oldLeaves : environment.LeavesProduct old := leaves
    simp [CatalogProduct.write, oldLeaves]
  · intro variant member leaves
    rcases Catalog.mem_amendVariants_iff.mp member with ⟨old, _, rfl⟩
    have oldLeaves : environment.Leaves old := leaves
    simp [CatalogVariant.write, oldLeaves]

/-- A catalog differs from another in the stock of one merchant alone. -/
structure Restocked (merchantId : Uuid) (base catalog : Catalog) (stock : CatalogVariant → Nat) :
    Prop where
  products : catalog.products = base.products
  rows : catalog.variants.rows = base.variants.rows.map fun variant =>
    variant.restock (stock variant)
  foreign : ∀ variant ∈ base.variants, variant.merchantId ≠ merchantId →
    stock variant = variant.inventoryQuantity

namespace Restocked

variable {merchantId : Uuid} {stock : CatalogVariant → Nat}

/-- A catalog is its own with the stock it has. -/
theorem self (merchantId : Uuid) (catalog : Catalog) :
    Restocked merchantId catalog catalog fun variant => variant.inventoryQuantity where
  products := rfl
  rows := (List.map_id _).symm
  foreign _ _ _ := rfl

/-- Writing variants by what they were, up to stock, is a restocking again. -/
theorem amend {change : CatalogVariant → VariantFields} {later : CatalogVariant → Nat}
    (restocked : Restocked merchantId base catalog stock)
    (writes : ∀ variant ∈ base.variants,
      (variant.restock (stock variant)).write (change (variant.restock (stock variant))) =
        variant.restock (later variant))
    (foreign : ∀ variant ∈ base.variants, variant.merchantId ≠ merchantId →
      later variant = variant.inventoryQuantity) :
    Restocked merchantId base (catalog.amendVariants change) later where
  products := restocked.products
  rows := by
    change catalog.variants.rows.map _ = _
    rw [restocked.rows, List.map_map]
    exact List.map_congr_left writes
  foreign := foreign

/-- Taking goods off the shelf moves nothing but the stock. -/
theorem consume {quantities : Uuid → Nat} (restocked : Restocked merchantId base catalog stock) :
    ∃ later, Restocked merchantId base (catalog.consume merchantId quantities) later := by
  refine ⟨fun variant => if variant.merchantId = merchantId then
    stock variant - min (quantities variant.id) (stock variant) else stock variant,
    restocked.amend ?_ ?_⟩
  · intro variant _
    by_cases own : variant.merchantId = merchantId
    · simp [CatalogVariant.restock, CatalogVariant.write, CatalogVariant.fields, own]
    · simp [CatalogVariant.restock, CatalogVariant.write, CatalogVariant.fields, own]
  · intro variant member isForeign
    rw [if_neg isForeign]
    exact restocked.foreign variant member isForeign

/-- Every variant is on the shelf as it was in the base. -/
theorem eq_base (restocked : Restocked merchantId base catalog stock)
    (right : ∀ variant ∈ base.variants, stock variant = variant.inventoryQuantity) :
    catalog = base := by
  apply Catalog.ext restocked.products
  apply Table.ext
  rw [restocked.rows]
  conv_rhs => rw [← List.map_id base.variants.rows]
  apply List.map_congr_left
  intro variant member
  rw [right variant member]
  rfl

end Restocked

/-! ## Restoring a settled catalog -/

section Restoring

variable {stock : CatalogVariant → Nat} {seed : SeedVariant} {merchantId : Uuid}

/-- Two variants that one seed names are one. -/
theorem eq_of_names {first second : CatalogVariant} (firstMem : first ∈ base.variants)
    (secondMem : second ∈ base.variants) (firstNames : seed.Names merchantId first)
    (secondNames : seed.Names merchantId second) : first = second := by
  apply base.skus first firstMem second secondMem
  exact Prod.ext (firstNames.1.trans secondNames.1.symm) (firstNames.2.trans secondNames.2.symm)

/-- Seeding a variant that the base shows puts its stock back. -/
theorem seedVariantRow_restocked (shows : ShowsVariant merchantId base seed)
    (restocked : Restocked merchantId base catalog stock) :
    ∃ final, seedVariantRow merchantId draws productId catalog seed = some final ∧
      Restocked merchantId base final fun variant =>
        if seed.Names merchantId variant then variant.inventoryQuantity else stock variant := by
  rcases shows with ⟨shown, shownMem, names, states⟩
  have isFound : (catalog.variants.rows.find? fun variant =>
      seed.Names merchantId variant).isSome = true := by
    rw [List.find?_isSome, restocked.rows]
    exact ⟨shown.restock (stock shown), List.mem_map_of_mem shownMem, decide_eq_true names⟩
  rcases Option.isSome_iff_exists.mp isFound with ⟨found, foundEq⟩
  refine ⟨catalog.amendVariants (seed.change merchantId), ?_, restocked.amend ?_ ?_⟩
  · simp only [seedVariantRow, foundEq]
  · intro variant member
    by_cases variantNames : seed.Names merchantId variant
    · have same : variant = shown := eq_of_names member shownMem variantNames names
      have restockedNames : seed.Names merchantId (variant.restock (stock variant)) := variantNames
      rw [write_change_of_names restockedNames, if_pos variantNames, CatalogVariant.write_restock,
        CatalogVariant.restock_self, same]
      exact CatalogVariant.write_fields states
    · rw [if_neg variantNames]
      exact write_change_of_not_names variantNames
  · intro variant member isForeign
    rw [restocked.foreign variant member isForeign, ite_self]

/-- Seeding variants that the base shows puts their stock back. -/
theorem seedVariants_restocked {seeds : List SeedVariant}
    (shows : ∀ seed ∈ seeds, ShowsVariant merchantId base seed)
    (restocked : Restocked merchantId base catalog stock) :
    ∃ final later,
      seeds.foldlM (seedVariantRow merchantId draws productId) catalog = some final ∧
      Restocked merchantId base final later ∧
      (∀ variant ∈ base.variants, (∃ seed ∈ seeds, seed.Names merchantId variant) →
        later variant = variant.inventoryQuantity) ∧
      ∀ variant ∈ base.variants, stock variant = variant.inventoryQuantity →
        later variant = variant.inventoryQuantity := by
  induction seeds generalizing catalog stock with
  | nil =>
      refine ⟨catalog, stock, rfl, restocked, ?_, fun _ _ right => right⟩
      rintro _ _ ⟨_, nothing, _⟩
      cases nothing
  | cons seed rest ih =>
      rw [List.forall_mem_cons] at shows
      rcases seedVariantRow_restocked shows.1 restocked with
        ⟨middle, first, middleRestocked⟩
      rcases ih shows.2 middleRestocked with ⟨final, later, rest, finalRestocked, named, kept⟩
      refine ⟨final, later, ?_, finalRestocked, ?_, ?_⟩
      · rw [List.foldlM_cons, first]
        exact rest
      · rintro variant member ⟨other, otherMem, names⟩
        rcases List.mem_cons.mp otherMem with rfl | ofRest
        · exact kept variant member (if_pos names)
        · exact named variant member ⟨other, ofRest, names⟩
      · intro variant member right
        apply kept variant member
        rw [right, ite_self]

/-- Seeding a product that the base shows changes nothing. -/
theorem seedProductRow_restocked {seed : SeedProduct} (shows : ShowsProduct merchantId base seed)
    (restocked : Restocked merchantId base catalog stock) :
    ∃ product, seedProductRow merchantId draws seed catalog = some (product, catalog) := by
  rcases shows with ⟨shown, shownMem, names, states⟩
  have isFound : (catalog.products.rows.find? fun product =>
      seed.Names merchantId product).isSome = true := by
    rw [List.find?_isSome, restocked.products]
    exact ⟨shown, shownMem, by simpa using names⟩
  rcases Option.isSome_iff_exists.mp isFound with ⟨found, foundEq⟩
  have unchanged : catalog.amendProducts (seed.change merchantId) = catalog := by
    apply Catalog.amendProducts_of_fixed
    intro product member
    by_cases productNames : seed.Names merchantId product
    · rw [SeedProduct.change, if_pos productNames, ← states]
      apply congrArg
      rw [restocked.products] at member
      apply base.externalIds product member shown shownMem
      exact Prod.ext (productNames.1.trans names.1.symm) (productNames.2.trans names.2.symm)
    · rw [SeedProduct.change, if_neg productNames]
  refine ⟨found.write seed.fields, ?_⟩
  simp only [seedProductRow, foundEq, unchanged]

theorem seedCatalog_restocked {seeds : List SeedProduct}
    (showsProducts : ∀ seed ∈ seeds, ShowsProduct merchantId base seed)
    (showsVariants : ∀ seed ∈ seeds.flatMap SeedProduct.variants,
      ShowsVariant merchantId base seed)
    (restocked : Restocked merchantId base catalog stock) :
    ∃ final later, seedCatalog merchantId draws seeds catalog = some final ∧
      Restocked merchantId base final later ∧
      (∀ variant ∈ base.variants,
        (∃ seed ∈ seeds.flatMap SeedProduct.variants, seed.Names merchantId variant) →
          later variant = variant.inventoryQuantity) ∧
      ∀ variant ∈ base.variants, stock variant = variant.inventoryQuantity →
        later variant = variant.inventoryQuantity := by
  unfold seedCatalog
  induction seeds generalizing catalog stock with
  | nil =>
      refine ⟨catalog, stock, rfl, restocked, ?_, fun _ _ right => right⟩
      rintro _ _ ⟨_, nothing, _⟩
      cases nothing
  | cons seed rest ih =>
      rw [List.forall_mem_cons] at showsProducts
      rw [List.flatMap_cons, List.forall_mem_append] at showsVariants
      rcases seedProductRow_restocked showsProducts.1 restocked with
        ⟨product, ofProduct⟩
      rcases seedVariants_restocked showsVariants.1
        restocked with ⟨middle, midStock, ofVariants, middleRestocked, namedFirst, keptFirst⟩
      rcases ih showsProducts.2 showsVariants.2 middleRestocked with
        ⟨final, later, ofRest, finalRestocked, named, kept⟩
      refine ⟨final, later, ?_, finalRestocked, ?_, ?_⟩
      · have ofSeed : seedProduct merchantId draws catalog seed = some middle := by
          rw [seedProduct, ofProduct]
          exact ofVariants
        rw [List.foldlM_cons, ofSeed]
        exact ofRest
      · rw [List.flatMap_cons]
        rintro variant member ⟨other, otherMem, names⟩
        rcases List.mem_append.mp otherMem with ofSeed | ofLater
        · exact kept variant member (namedFirst variant member ⟨other, ofSeed, names⟩)
        · exact named variant member ⟨other, ofLater, names⟩
      · intro variant member right
        exact kept variant member (keptFirst variant member right)

/-- Preparing puts a settled catalog back, whatever has been taken off its shelf. -/
theorem restore_of_restocked (settled : Settled environment base)
    (restocked : Restocked environment.merchantId base catalog stock) :
    environment.restore draws catalog = some base := by
  rcases seedCatalog_restocked settled.products settled.variants restocked with
    ⟨seeded, later, isSeeded, seededRestocked, named, _⟩
  rw [BenchmarkEnvironment.restore, isSeeded, Option.map_some, Option.some.injEq]
  have withdrawn : Restocked environment.merchantId base
      (seeded.amendVariants fun variant =>
        if environment.Leaves variant then
          { variant.fields with isActive := false, inventoryQuantity := 0 }
        else variant.fields)
      fun variant =>
        if environment.Leaves variant then variant.inventoryQuantity else later variant := by
    apply seededRestocked.amend
    · intro variant member
      by_cases leaves : environment.Leaves variant
      · have restockedLeaves : environment.Leaves (variant.restock (later variant)) := leaves
        rcases settled.withdrawnVariants variant member leaves with ⟨inactive, empty⟩
        rw [if_pos restockedLeaves, if_pos leaves, CatalogVariant.restock_self,
          CatalogVariant.write_restock]
        apply CatalogVariant.write_fields
        simp [CatalogVariant.fields, CatalogVariant.restock, inactive, empty]
      · have restockedLeaves : ¬environment.Leaves (variant.restock (later variant)) := leaves
        rw [if_neg restockedLeaves, if_neg leaves]
        exact CatalogVariant.write_fields rfl
    · intro variant member isForeign
      rw [seededRestocked.foreign variant member isForeign, ite_self]
  have atBase : (seeded.amendVariants fun variant =>
      if environment.Leaves variant then
        { variant.fields with isActive := false, inventoryQuantity := 0 }
      else variant.fields) = base := by
    apply withdrawn.eq_base
    intro variant member
    by_cases leaves : environment.Leaves variant
    · rw [if_pos leaves]
    · rw [if_neg leaves]
      by_cases own : variant.merchantId = environment.merchantId
      · apply named variant member
        have isNamed : variant.sku ∈ environment.fixture.skus := by
          by_contra unnamed
          exact leaves ⟨own, unnamed⟩
        rcases List.mem_map.mp isNamed with ⟨seed, seedMem, sameSku⟩
        exact ⟨seed, seedMem, own, sameSku.symm⟩
      · exact seededRestocked.foreign variant member own
  rw [BenchmarkEnvironment.withdrawUnnamed, atBase]
  apply Catalog.amendProducts_of_fixed
  intro product member
  by_cases leaves : environment.LeavesProduct product
  · rw [if_pos leaves]
    simp [CatalogProduct.fields, settled.withdrawnProducts product member leaves]
  · rw [if_neg leaves]

end Restoring

end AgentRank.Benchmark
