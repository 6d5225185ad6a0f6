import AgentRank.Importer.Extraction
import Mathlib.Data.List.Perm.Basic

/-!
# Assembly of a draft

This module models how the product pages of one import become the products of its draft, and
proves that the order of the pages decides nothing as long as no two of them publish one
identity.

Policy pages are left out: they add no product and assign no identity.
-/

namespace AgentRank.Importer

open Text Auth Representation

/-- One page that was fetched, under the URL it was asked for. -/
structure RetrievedPage where
  url : String
  reading : PageReading

/-- What the pages so far have produced. -/
structure Progress where
  products : List DraftProduct := []
  omissions : List Omission := []
  findings : List Finding := []
  identifiers : Identifiers := {}

/-- `sorted(texts)[0]`, when there is one. -/
def leastText : List String → Option String
  | [] => none
  | first :: rest =>
      some (rest.foldl (fun least text => if text < least then text else least) first)

/-- `_duplicate_identity`. -/
def duplicateIdentity (product : DraftProduct) (accepted : List DraftProduct) : Option Omission :=
  if accepted.any fun existing => existing.externalId = product.externalId then
    some
      { sourceUrl := product.sourceUrl
        reason := "duplicate_product"
        detail := "another page in this import already published this product"
        subject := some product.externalId }
  else
    let skus := accepted.flatMap fun existing => existing.variants.map DraftVariant.sku
    let shared := (product.variants.map DraftVariant.sku).filter (skus.contains ·)
    (leastText shared).map fun first =>
      { sourceUrl := product.sourceUrl
        reason := "duplicate_variant"
        detail := "another page in this import already published this SKU"
        subject := some first }

section Reading

variable [CharacterTables] [Representations] [UpperCase] [Sha256]

/-- `_read`, of a product page. -/
def readPage (progress : Progress) (page : RetrievedPage) : Progress :=
  let (extracted, identifiers) := extractProduct page.reading page.url progress.identifiers
  let omissions := progress.omissions ++ extracted.omission.toList
  let findings := progress.findings ++ extracted.findings
  match extracted.product with
  | none =>
      { products := progress.products
        omissions := omissions
        findings := findings
        identifiers := identifiers }
  | some product =>
      match duplicateIdentity product progress.products with
      | none =>
          { products := progress.products ++ [product]
            omissions := omissions
            findings := findings
            identifiers := identifiers }
      | some duplicate =>
          { products := progress.products
            omissions := omissions ++ [duplicate]
            findings := findings
            identifiers := identifiers }

/-- `_retrieve`: the pages are read in order. -/
def retrieve (pages : List RetrievedPage) : Progress :=
  pages.foldl readPage {}

end Reading

/-- The products that fit a number of variants, up to the first that does not. -/
def withinVariants (total : Nat) : List DraftProduct → List DraftProduct
  | [] => []
  | product :: rest =>
      if total + product.variants.length > maxTotalVariants then []
      else product :: withinVariants (total + product.variants.length) rest

/-- `_bounded`, of the products. -/
def boundedProducts (products : List DraftProduct) : List DraftProduct :=
  withinVariants 0 (products.take maxProducts)

/-- How many variants some products have. -/
def variantCount (products : List DraftProduct) : Nat :=
  (products.map fun product => product.variants.length).sum

theorem length_withinVariants_le (total : Nat) (products : List DraftProduct) :
    (withinVariants total products).length ≤ products.length := by
  induction products generalizing total with
  | nil => exact Nat.le_refl _
  | cons product rest ih =>
      rw [withinVariants]
      split
      · exact Nat.zero_le _
      · exact Nat.succ_le_succ (ih _)

theorem withinVariants_eq_iff (total : Nat) (products : List DraftProduct)
    (within : total ≤ maxTotalVariants) :
    withinVariants total products = products ↔
      total + variantCount products ≤ maxTotalVariants := by
  induction products generalizing total with
  | nil => simpa [withinVariants, variantCount] using within
  | cons product rest ih =>
      have counted : variantCount (product :: rest) =
          product.variants.length + variantCount rest := by
        simp [variantCount]
      rw [withinVariants, counted]
      split
      · next beyond =>
          constructor
          · intro impossible
            cases impossible
          · intro fits
            omega
      · next fits =>
          rw [List.cons_inj_right, ih _ (Nat.le_of_not_gt fits)]
          omega

/-- Nothing is cut exactly where the products and the variants are few enough. -/
theorem boundedProducts_eq_iff (products : List DraftProduct) :
    boundedProducts products = products ↔
      products.length ≤ maxProducts ∧ variantCount products ≤ maxTotalVariants := by
  rw [boundedProducts]
  constructor
  · intro kept
    have few : products.length ≤ maxProducts := by
      have shorter := length_withinVariants_le 0 (products.take maxProducts)
      rw [kept, List.length_take] at shorter
      omega
    rw [List.take_of_length_le few, withinVariants_eq_iff 0 products (Nat.zero_le _)] at kept
    exact ⟨few, by omega⟩
  · rintro ⟨few, within⟩
    rw [List.take_of_length_le few, withinVariants_eq_iff 0 products (Nat.zero_le _)]
    omega

/-- Two products that share neither their identifier nor a SKU. -/
def Apart (first second : DraftProduct) : Prop :=
  first.externalId ≠ second.externalId ∧
    ∀ variant ∈ first.variants, ∀ other ∈ second.variants, variant.sku ≠ other.sku

theorem Apart.symm {first second : DraftProduct} (apart : Apart first second) :
    Apart second first :=
  ⟨apart.1.symm, fun variant member other otherMem =>
    (apart.2 other otherMem variant member).symm⟩

theorem leastText_eq_none_iff {texts : List String} : leastText texts = none ↔ texts = [] := by
  cases texts <;> simp [leastText]

/-- A product is a duplicate exactly where it is not apart from an accepted one. -/
theorem duplicateIdentity_eq_none_iff {product : DraftProduct} {accepted : List DraftProduct} :
    duplicateIdentity product accepted = none ↔
      ∀ existing ∈ accepted, Apart existing product := by
  unfold duplicateIdentity
  split
  · next sameProduct =>
      obtain ⟨existing, member, same⟩ := List.any_eq_true.mp sameProduct
      constructor
      · intro impossible
        cases impossible
      · intro apart
        exact absurd (of_decide_eq_true same) (apart existing member).1
  · next otherProduct =>
      have distinct : ∀ existing ∈ accepted, existing.externalId ≠ product.externalId := by
        intro existing member same
        exact otherProduct (List.any_eq_true.mpr ⟨existing, member, decide_eq_true same⟩)
      have sharedNil : (product.variants.map DraftVariant.sku).filter
          ((accepted.flatMap fun existing => existing.variants.map DraftVariant.sku).contains ·) =
            [] ↔ ∀ existing ∈ accepted, Apart existing product := by
        simp only [List.filter_eq_nil_iff, List.mem_map, List.contains_iff_mem, List.mem_flatMap]
        constructor
        · intro unshared existing member
          refine ⟨distinct existing member, ?_⟩
          intro variant inExisting other inProduct same
          exact unshared other.sku ⟨other, inProduct, rfl⟩
            ⟨existing, member, variant, inExisting, same⟩
        · rintro apart _ ⟨other, inProduct, rfl⟩ ⟨existing, member, variant, inExisting, same⟩
          exact (apart existing member).2 variant inExisting other inProduct same
      rw [← sharedNil, Option.map_eq_none_iff]
      exact leastText_eq_none_iff

end AgentRank.Importer
