import AgentRank.Representation.Fixtures

/-!
# The canonical text of a JSON value

This module models `canonical_json` of `benchmark/identity.py` and what the intake compares
with it.  The fields of an object are written in the order of their keys, so the text of a
value does not depend on how the database lists them.
-/

namespace AgentRank.Representation

open Constraints Relational Store

/-- `\uXXXX`. -/
def escapedUnit (unit : Nat) : String :=
  let digits := Nat.toDigits 16 unit
  "\\u" ++ String.ofList (List.replicate (4 - digits.length) '0' ++ digits)

/-- One character of a text, as `ensure_ascii` writes it. -/
def escapedChar (char : Char) : String :=
  if char = '"' then "\\\""
  else if char = '\\' then "\\\\"
  else if char = '\n' then "\\n"
  else if char = '\r' then "\\r"
  else if char = '\t' then "\\t"
  else if char.toNat = 8 then "\\b"
  else if char.toNat = 12 then "\\f"
  else if 0x20 ≤ char.toNat ∧ char.toNat ≤ 0x7e then char.toString
  else if char.toNat < 0x10000 then escapedUnit char.toNat
  else
    escapedUnit (0xd800 + (char.toNat - 0x10000) / 0x400) ++
      escapedUnit (0xdc00 + (char.toNat - 0x10000) % 0x400)

def quoted (text : String) : String :=
  "\"" ++ String.join (text.toList.map escapedChar) ++ "\""

def canonicalValue : Value → String
  | .null => "null"
  | .text text => quoted text
  | .integer value => toString value
  | .boolean value => if value then "true" else "false"
  | .price amountMinor currency =>
      "\x7b\"amount_minor\":" ++ toString amountMinor ++ ",\"currency\":" ++ quoted currency ++
        "\x7d"
  | .other json => json

/-- The fields of an object, in the order of their keys. -/
def canonicalObject (fields : List (String × String)) : String :=
  "\x7b" ++ String.intercalate ","
    ((Mapping.ofEntries fields).entries.map fun field => quoted field.1 ++ ":" ++ field.2) ++ "\x7d"

mutual

/-- `canonical_json`. -/
def Document.canonical : Document → String
  | .scalar value => canonicalValue value
  | .array items => "[" ++ String.intercalate "," (canonicalItems items) ++ "]"
  | .object fields => canonicalObject (canonicalFields fields)

def canonicalItems : List Document → List String
  | [] => []
  | item :: rest => item.canonical :: canonicalItems rest

def canonicalFields : Entry → List (String × String)
  | [] => []
  | (key, value) :: rest => (key, value.canonical) :: canonicalFields rest

end

theorem canonicalItems_eq_map (items : List Document) :
    canonicalItems items = items.map Document.canonical := by
  induction items with
  | nil => rfl
  | cons item rest ih => rw [canonicalItems, ih, List.map_cons]

theorem canonicalFields_eq_map (fields : Entry) :
    canonicalFields fields = fields.map fun field => (field.1, field.2.canonical) := by
  induction fields with
  | nil => rfl
  | cons field rest ih => rw [canonicalFields, ih, List.map_cons]

/-- No object of a value has a key twice. -/
inductive Document.Distinct : Document → Prop
  | scalar (value : Value) : Document.Distinct (.scalar value)
  | array (items : List Document) (each : ∀ item ∈ items, item.Distinct) :
      Document.Distinct (.array items)
  | object (fields : Entry) (keys : (fields.map Prod.fst).Nodup)
      (each : ∀ field ∈ fields, field.2.Distinct) : Document.Distinct (.object fields)

/-- What the database gives back has the text of what was stored. -/
theorem Document.Distinct.canonical_stored [FieldOrder] {document : Document}
    (distinct : document.Distinct) : document.stored.canonical = document.canonical := by
  induction distinct with
  | scalar => rfl
  | array items _ ih =>
      have same : (items.map Document.stored).map Document.canonical =
          items.map Document.canonical := by
        rw [List.map_map]
        exact List.map_congr_left ih
      rw [Document.stored, Document.canonical, Document.canonical, storedItems_eq_map,
        canonicalItems_eq_map, canonicalItems_eq_map, same]
  | object fields keys _ ih =>
      have perm : ((readBack fields).map fun field => (field.1, field.2.canonical)).Perm
          (fields.map fun field => (field.1, field.2.canonical)) := by
        refine ((readBack_perm fields).map _).trans ?_
        rw [List.map_map]
        refine List.Perm.of_eq (List.map_congr_left fun field member => ?_)
        exact congrArg (Prod.mk field.1) (ih field member)
      have keysNodup : ((fields.map fun field => (field.1, field.2.canonical)).map
          Prod.fst).Nodup := by
        rwa [List.map_map]
      rw [Document.stored, Document.canonical, Document.canonical, canonicalFields_eq_map,
        canonicalFields_eq_map, canonicalObject, canonicalObject, ← readBack,
        Mapping.ofEntries_perm perm.symm keysNodup]

/-! ## Evidence -/

/-- What a merchant says in a source document. -/
def evidenceOf (products policyText : Document) : Document :=
  .object [("products", products), ("policy_text", policyText)]

/-- `_evidence`, of a stored payload. -/
def evidenceText (payload : Document) : String :=
  (evidenceOf ((payload.fields.lookup "products").getD (.array []))
    ((payload.fields.lookup "policy_text").getD (.object []))).canonical

def policyPayload (policyText : Mapping String) : Document :=
  .object (policyText.entries.map fun entry => (entry.1, .scalar (.text entry.2)))

/-- `SourceDocumentInput.evidence`. -/
def SourceDocumentInput.evidence (document : SourceDocumentInput) : Except ValueError Document := do
  let products ← document.products.mapM SourceProductInput.domain
  return evidenceOf (.array (products.map fun product => product.fields.payload))
    (policyPayload document.policyText)

theorem distinct_metadataPayload (metadata : Mapping Value) : (metadataPayload metadata).Distinct := by
  refine .object _ ?_ ?_
  · rw [List.map_map]
    exact metadata.keysNodup
  · intro field member
    obtain ⟨entry, _, rfl⟩ := List.mem_map.mp member
    exact .scalar _

theorem distinct_policyPayload (policyText : Mapping String) : (policyPayload policyText).Distinct := by
  refine .object _ ?_ ?_
  · rw [List.map_map]
    exact policyText.keysNodup
  · intro field member
    obtain ⟨entry, _, rfl⟩ := List.mem_map.mp member
    exact .scalar _

theorem distinct_variantPayload (variant : SourceVariant) : variant.payload.Distinct := by
  unfold SourceVariant.payload
  split
  · refine .object _ (by simp) ?_
    simp only [List.cons_append, List.nil_append, List.forall_mem_cons, List.not_mem_nil,
      false_imp_iff, implies_true, and_true]
    exact ⟨.scalar _, .scalar _, .scalar _, .scalar _, .scalar _,
      distinct_metadataPayload variant.merchantMetadata, .scalar _⟩
  · refine .object _ (by simp) ?_
    simp only [List.append_nil, List.forall_mem_cons, List.not_mem_nil, false_imp_iff,
      implies_true, and_true]
    exact ⟨.scalar _, .scalar _, .scalar _, .scalar _, .scalar _,
      distinct_metadataPayload variant.merchantMetadata⟩

theorem distinct_productPayload (product : SourceProduct) : product.payload.Distinct := by
  refine .object _ (by simp) ?_
  simp only [List.forall_mem_cons, List.not_mem_nil, false_imp_iff, implies_true, and_true]
  refine ⟨.scalar _, .scalar _, .scalar _, .scalar _, .array _ ?_,
    distinct_metadataPayload product.merchantMetadata⟩
  intro item member
  obtain ⟨variant, _, rfl⟩ := List.mem_map.mp member
  exact distinct_variantPayload variant.fields

theorem distinct_productsPayload (products : List (Made SourceProduct)) :
    (Document.array (products.map fun product => product.fields.payload)).Distinct := by
  refine .array _ fun item member => ?_
  obtain ⟨product, _, rfl⟩ := List.mem_map.mp member
  exact distinct_productPayload product.fields

/-- The evidence of a stored definition is that of its products and its policies. -/
theorem evidenceText_stored [FieldOrder] (source : MerchantSourceDefinition) :
    evidenceText source.payload.stored =
      (evidenceOf (.array (source.products.map fun product => product.fields.payload))
        (policyPayload source.policyText)).canonical := by
  have keys : (source.payload.fields.map Prod.fst).Nodup := by
    simp [MerchantSourceDefinition.payload, Document.fields]
  have products := lookup_readBack keys "products"
  have policyText := lookup_readBack keys "policy_text"
  have found : source.payload.fields.lookup "products" =
      some (.array (source.products.map fun product => product.fields.payload)) := rfl
  have policyFound : source.payload.fields.lookup "policy_text" =
      some (policyPayload source.policyText) := rfl
  rw [found] at products
  rw [policyFound] at policyText
  change (evidenceOf (((readBack source.payload.fields).lookup "products").getD (.array []))
    (((readBack source.payload.fields).lookup "policy_text").getD (.object []))).canonical = _
  rw [products, policyText, evidenceOf, evidenceOf, Document.canonical, Document.canonical,
    canonicalFields_eq_map, canonicalFields_eq_map]
  simp only [Option.map_some, Option.getD_some, List.map_cons, List.map_nil,
    (distinct_productsPayload source.products).canonical_stored,
    (distinct_policyPayload source.policyText).canonical_stored]

/-- A definition that is made of a document carries the evidence of the document. -/
theorem evidenceText_of_definition [FieldOrder] {document : SourceDocumentInput}
    {evidence : Document} (isEvidence : document.evidence = .ok evidence) {key : String}
    {version : Int} {merchantSlug : String} {source : Made MerchantSourceDefinition}
    (isMade : document.definition key version merchantSlug = .ok source) :
    evidenceText source.fields.payload.stored = evidence.canonical := by
  obtain ⟨products, productsOk, isEvidence⟩ := except_bind_eq_ok_iff.mp isEvidence
  obtain ⟨sameProducts, sameOk, isMade⟩ := except_bind_eq_ok_iff.mp isMade
  cases productsOk.symm.trans sameOk
  cases isEvidence
  rw [evidenceText_stored, fields_of_make isMade]

end AgentRank.Representation
