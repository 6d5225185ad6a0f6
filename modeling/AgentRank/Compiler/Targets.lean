import AgentRank.Representation.Fields

/-!
# The grammar of candidate targets

This module models `compiler/targets.py`.  A target names the field of the representation that
a proposal would populate, by the identifiers of the merchant.  Where these hold no dot, a
target is told apart from every other one, and what it begins with names its variant.
-/

namespace AgentRank.Compiler

open Representation Text

def variantPrefix (sku : String) : String :=
  "variant." ++ sku ++ "."

def productPrefix (externalId : String) : String :=
  "product." ++ externalId ++ "."

def policyPrefix : String := "policy."

def variantPriceTarget (sku : String) : String :=
  variantPrefix sku ++ "price"

def variantAvailabilityTarget (sku : String) : String :=
  variantPrefix sku ++ "availability"

def attributeSegment : String := "attribute."

def compatibilitySegment : String := "compatibility."

def variantAttributePrefix (sku : String) : String :=
  variantPrefix sku ++ attributeSegment

def variantAttributeTarget (sku attributeKey : String) : String :=
  variantAttributePrefix sku ++ attributeKey

def variantCompatibilityPrefix (sku : String) : String :=
  variantPrefix sku ++ compatibilitySegment

def variantCompatibilityTarget (sku capability : String) : String :=
  variantCompatibilityPrefix sku ++ capability

def productTitleTarget (externalId : String) : String :=
  productPrefix externalId ++ "title"

def productCategoryTarget (externalId : String) : String :=
  productPrefix externalId ++ "category"

def policyTarget (name : String) : String :=
  policyPrefix ++ name

inductive ProductSubject
  | title
  | category
deriving DecidableEq

inductive VariantSubject
  | price
  | availability
  | feature (attributeKey : String)
  | compatibility (capability : String)
deriving DecidableEq

/-- The fields of a representation that a proposal can populate. -/
inductive Subject
  | product (externalId : String) (field : ProductSubject)
  | variant (sku : String) (field : VariantSubject)
  | policy (name : String)
deriving DecidableEq

def Subject.target : Subject → String
  | product externalId .title => productTitleTarget externalId
  | product externalId .category => productCategoryTarget externalId
  | variant sku .price => variantPriceTarget sku
  | variant sku .availability => variantAvailabilityTarget sku
  | variant sku (.feature attributeKey) => variantAttributeTarget sku attributeKey
  | variant sku (.compatibility capability) => variantCompatibilityTarget sku capability
  | policy name => policyTarget name

def ProductSubject.text : ProductSubject → String
  | title => "title"
  | category => "category"

def VariantSubject.text : VariantSubject → String
  | price => "price"
  | availability => "availability"
  | feature attributeKey => attributeSegment ++ attributeKey
  | compatibility capability => compatibilitySegment ++ capability

theorem Subject.target_product (externalId : String) (field : ProductSubject) :
    (Subject.product externalId field).target = "product." ++ externalId ++ "." ++ field.text := by
  cases field <;> rfl

theorem Subject.target_variant (sku : String) (field : VariantSubject) :
    (Subject.variant sku field).target = "variant." ++ sku ++ "." ++ field.text := by
  cases field with
  | price | availability => rfl
  | feature attributeKey => exact String.append_assoc
  | compatibility capability => exact String.append_assoc

/-- The identifier in a subject holds no dot. -/
def Subject.Plain : Subject → Prop
  | product identifier _ | variant identifier _ => IsPlain identifier
  | policy _ => True

/-- An identifier is told from what follows its dot. -/
theorem dotted_injective {opening first second firstRest secondRest : String}
    (firstPlain : IsPlain first) (secondPlain : IsPlain second)
    (same : opening ++ first ++ "." ++ firstRest = opening ++ second ++ "." ++ secondRest) :
    first = second ∧ firstRest = secondRest := by
  have sameChars := congrArg String.toList same
  have stop : ".".toList = ['.'] := rfl
  simp only [String.toList_append, List.append_assoc, List.append_cancel_left_eq, stop,
    List.cons_append, List.nil_append] at sameChars
  obtain ⟨sameFirst, sameRest⟩ := append_cons_injective firstPlain.1 secondPlain.1 sameChars
  exact ⟨String.toList_injective sameFirst, String.toList_injective sameRest⟩

theorem ProductSubject.text_injective {first second : ProductSubject}
    (same : first.text = second.text) : first = second := by
  cases first <;> cases second <;> simp [ProductSubject.text] at same ⊢

theorem VariantSubject.text_injective {first second : VariantSubject}
    (same : first.text = second.text) : first = second := by
  have sameChars := congrArg String.toList same
  cases first <;> cases second <;>
    simp [VariantSubject.text, attributeSegment, compatibilitySegment] at same sameChars ⊢
  · exact same
  · exact same

/-- Where identifiers are plain, a target names one field. -/
theorem Subject.target_injective {first second : Subject} (firstPlain : first.Plain)
    (secondPlain : second.Plain) (same : first.target = second.target) : first = second := by
  cases first with
  | product externalId field =>
      rw [target_product] at same
      cases second with
      | product other otherField =>
          rw [target_product] at same
          obtain ⟨sameId, sameField⟩ := dotted_injective firstPlain secondPlain same
          rw [sameId, ProductSubject.text_injective sameField]
      | variant other otherField =>
          rw [target_variant] at same
          have sameChars := congrArg String.toList same
          simp at sameChars
      | policy name =>
          have sameChars := congrArg String.toList same
          simp [target, policyTarget, policyPrefix] at sameChars
  | variant sku field =>
      rw [target_variant] at same
      cases second with
      | product other otherField =>
          rw [target_product] at same
          have sameChars := congrArg String.toList same
          simp at sameChars
      | variant other otherField =>
          rw [target_variant] at same
          obtain ⟨sameSku, sameField⟩ := dotted_injective firstPlain secondPlain same
          rw [sameSku, VariantSubject.text_injective sameField]
      | policy name =>
          have sameChars := congrArg String.toList same
          simp [target, policyTarget, policyPrefix] at sameChars
  | policy name =>
      have sameChars := congrArg String.toList same
      cases second with
      | product other otherField =>
          rw [target_product] at sameChars
          simp [target, policyTarget, policyPrefix] at sameChars
      | variant other otherField =>
          rw [target_variant] at sameChars
          simp [target, policyTarget, policyPrefix] at sameChars
      | policy otherName =>
          simp [target, policyTarget, policyPrefix] at same
          rw [same]

end AgentRank.Compiler
