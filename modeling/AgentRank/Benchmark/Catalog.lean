import AgentRank.Benchmark.Evaluation

/-!
# The merchant's own data about a mission

This module models `benchmark/catalog.py`: what a catalog entry offers, whether it
satisfies a brief, and what the catalog says about one mission.
-/

namespace AgentRank.Benchmark

open Constraints Store Text

/-- One purchasable configuration. -/
structure CatalogEntry where
  variantId : Uuid
  sku : String
  productCategory : Option String
  attributes : Attributes
  priceAmountMinor : Nat
  currency : String
  inventoryQuantity : Nat
  isActive : Bool
  isCurrency : isCurrencyCode currency = true

/-- Whether a buyer could take this many of these away. -/
def CatalogEntry.canSupply (entry : CatalogEntry) (quantity : Nat) : Bool :=
  entry.isActive && decide (quantity ≤ entry.inventoryQuantity)

/-- What a quantity of an entry costs. -/
def CatalogEntry.priceOf (entry : CatalogEntry) (quantity : Nat) : Nat :=
  entry.priceAmountMinor * quantity

/-- `_sellable`: whether the merchant offers what was selected.  A variant that has run
out is still offered. -/
def sellable (selection : ObservedSelection) (entries : List CatalogEntry) : Bool :=
  match entries.find? fun entry => entry.variantId == selection.variantId with
  | some entry => entry.isActive
  | none => false

variable [CaseFolding]

/-- Whether an entry is of a category that the brief allows. -/
def ofAllowedCategory (brief : AgentMissionBrief) (entry : CatalogEntry) : Bool :=
  let allowed := brief.allowedCategories
  if allowed.isEmpty then true
  else
    match entry.productCategory with
    | none => false
    | some category =>
        decide (compare .isIn (.tuple (allowed.map ScalarValue.string))
          (.scalar (.string category)) = some true)

/-- Whether an entry answers one hard constraint.  Only attributes are asked of it. -/
def answersConstraint (entry : CatalogEntry) : HardConstraint → Bool
  | .requiredAttribute name operator value =>
      match lookupAttribute entry.attributes name with
      | none => false
      | some actual => decide (compare operator value actual = some true)
  | .maxTotalAmount _ _ | .maxQuantity _ | .allowedCategory _ => true

/-- Whether one purchasable variant meets everything a mission requires. -/
def satisfies (brief : AgentMissionBrief) (entry : CatalogEntry) : Bool :=
  if !entry.canSupply brief.quantity then false
  else if entry.currency ≠ brief.currency then false
  else if brief.budget.amountMinor < entry.priceOf brief.quantity then false
  else if !ofAllowedCategory brief entry then false
  else brief.hardConstraints.all (answersConstraint entry)

/-- What the merchant's own data says about one mission. -/
def factsFor (brief : AgentMissionBrief) (entries : List CatalogEntry)
    (selection : Option ObservedSelection) : CatalogFacts where
  qualifyingVariantExists := entries.any (satisfies brief)
  selectionIsSellable := selection.map fun selection => sellable selection entries

/-! ## What it takes to satisfy a brief -/

/-- An entry is what the buyer asked for, whatever there is in stock. -/
structure Qualifies (brief : AgentMissionBrief) (entry : CatalogEntry) : Prop where
  currency : entry.currency = brief.currency
  withinBudget : entry.priceOf brief.quantity ≤ brief.budget.amountMinor
  category : brief.allowedCategories ≠ [] → ∃ category,
    entry.productCategory = some category ∧
      compare .isIn (.tuple (brief.allowedCategories.map ScalarValue.string))
        (.scalar (.string category)) = some true
  attributes : ∀ name operator value,
    .requiredAttribute name operator value ∈ brief.hardConstraints →
      ∃ actual, lookupAttribute entry.attributes name = some actual ∧
        compare operator value actual = some true

variable {entry : CatalogEntry}

theorem ofAllowedCategory_iff {brief : AgentMissionBrief} :
    ofAllowedCategory brief entry = true ↔
      (brief.allowedCategories ≠ [] → ∃ category, entry.productCategory = some category ∧
        compare .isIn (.tuple (brief.allowedCategories.map ScalarValue.string))
          (.scalar (.string category)) = some true) := by
  cases allowed : brief.allowedCategories with
  | nil => simp [ofAllowedCategory, allowed]
  | cons first rest =>
      cases published : entry.productCategory with
      | none => simp [ofAllowedCategory, allowed, published]
      | some category => simp [ofAllowedCategory, allowed, published]

theorem answersConstraint_attribute_iff {name : String} {operator : ConstraintOperator}
    {value : ConstraintValue} :
    answersConstraint entry (.requiredAttribute name operator value) = true ↔
      ∃ actual, lookupAttribute entry.attributes name = some actual ∧
        compare operator value actual = some true := by
  cases found : lookupAttribute entry.attributes name with
  | none => simp [answersConstraint, found]
  | some actual => simp [answersConstraint, found]

theorem all_answersConstraint_iff {constraints : List HardConstraint} :
    constraints.all (answersConstraint entry) = true ↔
      ∀ name operator value, .requiredAttribute name operator value ∈ constraints →
        ∃ actual, lookupAttribute entry.attributes name = some actual ∧
          compare operator value actual = some true := by
  rw [List.all_eq_true]
  constructor
  · intro answers name operator value stated
    exact answersConstraint_attribute_iff.mp (answers _ stated)
  · intro answered constraint stated
    cases constraint with
    | requiredAttribute name operator value =>
        exact answersConstraint_attribute_iff.mpr (answered name operator value stated)
    | maxTotalAmount | maxQuantity | allowedCategory => rfl

/-- An entry satisfies a brief exactly when it qualifies and can be supplied. -/
theorem satisfies_iff {brief : AgentMissionBrief} :
    satisfies brief entry = true ↔
      entry.canSupply brief.quantity = true ∧ Qualifies brief entry := by
  constructor
  · intro satisfied
    unfold satisfies at satisfied
    split at satisfied
    · cases satisfied
    · next supplied =>
        split at satisfied
        · cases satisfied
        · next currency =>
            split at satisfied
            · cases satisfied
            · next budget =>
                split at satisfied
                · cases satisfied
                · next category =>
                    constructor
                    · simpa using supplied
                    · constructor
                      · exact not_not.mp currency
                      · exact not_lt.mp budget
                      · apply ofAllowedCategory_iff.mp
                        simpa using category
                      · exact all_answersConstraint_iff.mp satisfied
  · rintro ⟨supplied, qualifies⟩
    have category : ofAllowedCategory brief entry = true :=
      ofAllowedCategory_iff.mpr qualifies.category
    simp [satisfies, supplied, qualifies.currency, not_lt.mpr qualifies.withinBudget, category,
      all_answersConstraint_iff.mpr qualifies.attributes]

omit [CaseFolding] in
/-- An entry of the catalog is offered exactly when it is active. -/
theorem sellable_of_mem {selection : ObservedSelection} {entries : List CatalogEntry}
    (unique : (entries.map CatalogEntry.variantId).Nodup) (member : entry ∈ entries)
    (selected : selection.variantId = entry.variantId) :
    sellable selection entries = entry.isActive := by
  have found : (entries.find? fun other => other.variantId == selection.variantId) =
      some entry := by
    induction entries with
    | nil => cases member
    | cons first rest ih =>
        rw [List.map_cons, List.nodup_cons] at unique
        rcases List.mem_cons.mp member with rfl | later
        · simp [selected]
        · have differs : first.variantId ≠ selection.variantId := by
            rw [selected]
            intro same
            exact unique.1 (same ▸ List.mem_map_of_mem later)
          rw [List.find?_cons_of_neg (by simpa using differs)]
          exact ih unique.2 later
  simp [sellable, found]

end AgentRank.Benchmark
