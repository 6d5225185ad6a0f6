import AgentRank.Benchmark.DiscoveryWire

/-!
# What leaves the discovery boundary

The view of a compiled treatment publishes the facts of its pinned representation, SKU by SKU.
Whatever the view, what a model buyer is shown of the catalog does not depend on the attributes
of the variants, and the view that the worker reads shows the same as the one that was written.
-/

namespace AgentRank.Benchmark

open Commerce Constraints Relational Representation Store Text

def pinnedVariants (definition : CommerceIRDefinition) : List (Made CommerceVariant) :=
  definition.products.flatMap fun product => product.fields.variants

theorem isBlank_sku (variant : Made CommerceVariant) : isBlank variant.fields.sku = false := by
  have sound := variant.sound
  simp only [Dataclass.refusal, firstRefusal_eq_none_iff, List.forall_mem_cons] at sound
  exact sound.1

theorem skus_nodup (definition : Made CommerceIRDefinition) :
    ((pinnedVariants definition.fields).map fun variant => variant.fields.sku).Nodup := by
  have sound := definition.sound
  simp only [Dataclass.refusal, Option.or_eq_none_iff, firstRefusal_eq_none_iff,
    List.forall_mem_cons] at sound
  have distinct : definition.fields.skus.Nodup := by
    have checked := sound.2.2.2.2.1
    simp only [Bool.or_eq_false_iff, Bool.not_eq_false', decide_eq_true_eq] at checked
    exact checked.2
  rw [pinnedVariants, List.map_flatMap]
  exact distinct

/-- An attribute holds a text, a whole number or a truth value. -/
theorem holds_of_made (stated : Made CommerceAttribute) :
    stated.fields.kind.holds stated.fields.fact.fields.value = true := by
  have sound := stated.sound
  simp only [Dataclass.refusal, firstRefusal_eq_none_iff, List.forall_mem_cons,
    Bool.not_eq_false'] at sound
  exact sound.2.1

section Pinned

variable [OpaqueValues]

/-- What a representation states of an attribute, without where it has it from. -/
def pinnedFact (stated : CommerceAttribute) : Fact where
  key := Payload.text stated.key
  kind := Payload.text stated.kind.value
  unit := Payload.optionalText stated.unit
  value := stated.fact.fields.value.json

def factsOfVariant (variant : CommerceVariant) : List Fact :=
  variant.attributes.map fun stated => pinnedFact stated.fields

/-- The facts of a representation for a SKU. -/
def pinnedFacts (definition : CommerceIRDefinition) (sku : String) : List Fact :=
  match (pinnedVariants definition).find? fun variant => variant.fields.sku = sku with
  | some variant => factsOfVariant variant.fields
  | none => []

/-- What stands under the attributes of a SKU, when the representation has facts for it. -/
def pinnedAttributes (definition : CommerceIRDefinition) (sku : String) : Option Json :=
  if (pinnedFacts definition sku).isEmpty then none
  else some (.array ((pinnedFacts definition sku).map Fact.document))

theorem factOf_json (stated : CommerceAttribute) : factOf stated.json = .ok (pinnedFact stated) :=
  rfl

theorem readVariant_json {variant : CommerceVariant} (named : isBlank variant.sku = false)
    (bySku : Mapping (List Fact)) :
    readVariant bySku variant.json = .ok (bySku.insert variant.sku (factsOfVariant variant)) := by
  have isSku : skuOf variant.json = .ok variant.sku := by
    change (if isBlank variant.sku then _ else Except.ok variant.sku) = _
    rw [named, if_neg Bool.false_ne_true]
  have isList : listOf variant.json "attributes" =
      .ok (variant.attributes.map fun stated => stated.fields.json) := rfl
  have isRead : (variant.attributes.map fun stated => stated.fields.json).mapM factOf =
      .ok (factsOfVariant variant) := by
    rw [mapM_eq_ok_iff, factsOfVariant, List.forall₂_map_left_iff, List.forall₂_map_right_iff,
      List.forall₂_same]
    exact fun stated _ => factOf_json stated.fields
  unfold readVariant
  simp only [isSku, isList, isRead, bind, Except.bind, pure, Except.pure]

/-- The facts are read variant by variant. -/
theorem irAttributes_json (definition : CommerceIRDefinition) :
    irAttributes definition.json = .ok (Mapping.ofEntries
      ((pinnedVariants definition).map fun variant =>
        (variant.fields.sku, factsOfVariant variant.fields))) := by
  have isList : listOf definition.json "products" =
      .ok (definition.products.map fun product => product.fields.json) := rfl
  have turn : ∀ product : Made CommerceProduct, ∀ bySku : Mapping (List Fact),
      (do (← listOf product.fields.json "variants").foldlM readVariant bySku) =
        .ok (product.fields.variants.foldl (fun bySku variant =>
          bySku.insert variant.fields.sku (factsOfVariant variant.fields)) bySku) := by
    intro product bySku
    have isVariants : listOf product.fields.json "variants" =
        .ok (product.fields.variants.map fun variant => variant.fields.json) := rfl
    rw [isVariants]
    change (product.fields.variants.map fun variant => variant.fields.json).foldlM readVariant
      bySku = _
    rw [List.foldlM_map]
    exact foldlM_ok (fun variant _ held => readVariant_json (isBlank_sku variant) held) bySku
  unfold irAttributes
  rw [isList]
  change (definition.products.map fun product => product.fields.json).foldlM _ Mapping.empty = _
  rw [List.foldlM_map, foldlM_ok fun product _ held => turn product held]
  rw [Mapping.ofEntries, List.foldl_map, pinnedVariants, List.foldl_flatMap]

/-! ## The compiled view -/

/-- The facts that were read under a SKU are the pinned ones. -/
theorem getD_read (definition : Made CommerceIRDefinition) (sku : String) :
    ((Mapping.ofEntries ((pinnedVariants definition.fields).map fun variant =>
        (variant.fields.sku, factsOfVariant variant.fields))).get? sku).getD [] =
      pinnedFacts definition.fields sku := by
  have distinct : (((pinnedVariants definition.fields).map fun variant =>
      (variant.fields.sku, factsOfVariant variant.fields)).map Prod.fst).Nodup := by
    rw [List.map_map]
    exact skus_nodup definition
  rw [Mapping.get?_ofEntries distinct, pinnedFacts]
  induction pinnedVariants definition.fields with
  | nil => rfl
  | cons variant rest ih =>
      rw [List.map_cons, Mapping.lookup_cons_ite, List.find?_cons]
      by_cases same : variant.fields.sku = sku
      · rw [if_pos same.symm, decide_eq_true same]
        rfl
      · rw [if_neg (Ne.symm same), decide_eq_false same]
        exact ih

/-- The view of a compiled treatment publishes the facts of its representation. -/
theorem buyerDiscoveryView_compiled (definition : Made CommerceIRDefinition) (id : Uuid) :
    ∃ view, buyerDiscoveryView "COMPILED" (some id) (some definition.fields.json) = .ok view ∧
      view.fields.kind = .agentReady ∧
        ∀ sku, view.fields.factsOf sku = pinnedFacts definition.fields sku := by
  have named : ∀ entry ∈ (Mapping.ofEntries ((pinnedVariants definition.fields).map fun variant =>
      (variant.fields.sku, factsOfVariant variant.fields))).entries, isBlank entry.1 = false := by
    intro entry member
    have distinct : (((pinnedVariants definition.fields).map fun variant =>
        (variant.fields.sku, factsOfVariant variant.fields)).map Prod.fst).Nodup := by
      rw [List.map_map]
      exact skus_nodup definition
    have found := Mapping.get?_eq_some_iff.mpr member
    rw [Mapping.get?_ofEntries distinct, Mapping.lookup_eq_some_iff distinct] at found
    obtain ⟨variant, _, isEntry⟩ := List.mem_map.mp found
    rw [← congrArg Prod.fst isEntry]
    exact isBlank_sku variant
  obtain ⟨view, isView, kind, facts⟩ := agentReadyView_eq_ok id named
  refine ⟨view, ?_, kind, fun sku => ?_⟩
  · unfold buyerDiscoveryView
    rw [if_neg (by decide), if_pos rfl]
    simp only [irAttributes_json, bind, Except.bind]
    exact isView
  · rw [BuyerDiscoveryView.factsOf, facts, getD_read]

/-- A pinned fact may be published exactly when it is not named like benchmark ground truth. -/
theorem isPublishable_pinnedFact (stated : Made CommerceAttribute) :
    (pinnedFact stated.fields).IsPublishable ↔ stated.fields.key ∉ oracleFields := by
  have scalar : forbiddenIn stated.fields.fact.fields.value.json = [] := by
    have holds := holds_of_made stated
    cases isValue : stated.fields.fact.fields.value with
    | price amountMinor currency =>
        rw [isValue] at holds
        cases kind : stated.fields.kind <;> rw [kind] at holds <;> cases holds
    | other json =>
        rw [isValue] at holds
        cases kind : stated.fields.kind <;> rw [kind] at holds <;> cases holds
    | null => rfl
    | text _ => rfl
    | integer _ => rfl
    | boolean _ => rfl
  have plain : forbiddenIn (pinnedFact stated.fields).document = [] := by
    have noneNamed : (oracleFields.filter fun name =>
        ((pinnedFact stated.fields).fields.lookup name).isSome) = [] := rfl
    have unit : forbiddenIn (Payload.optionalText stated.fields.unit) = [] := by
      cases stated.fields.unit <;> rfl
    rw [Fact.document, forbiddenIn, noneNamed]
    simp only [Fact.fields, pinnedFact, forbiddenInFields, unit, scalar, Payload.text, forbiddenIn]
  have named : isOracleName (pinnedFact stated.fields).key = .ok false ↔
      stated.fields.key ∉ oracleFields := by
    change Except.ok (oracleFields.contains stated.fields.key) = Except.ok false ↔ _
    rw [Except.ok.injEq, ← Bool.not_eq_true, List.contains_iff_mem]
  exact ⟨fun publishable => named.mp publishable.named, fun free => ⟨named.mpr free, plain⟩⟩

/-- What holds of the pinned facts holds of every fact of the representation. -/
theorem forall_pinnedFacts_iff (definition : Made CommerceIRDefinition) {holds : Fact → Prop} :
    (∀ sku, ∀ fact ∈ pinnedFacts definition.fields sku, holds fact) ↔
      ∀ variant ∈ pinnedVariants definition.fields, ∀ stated ∈ variant.fields.attributes,
        holds (pinnedFact stated.fields) := by
  constructor
  · intro each variant member stated isStated
    refine each variant.fields.sku _ ?_
    unfold pinnedFacts
    cases found : (pinnedVariants definition.fields).find? fun other =>
        other.fields.sku = variant.fields.sku with
    | none => simpa using List.find?_eq_none.mp found variant member
    | some other =>
        have isOther : other = variant :=
          List.inj_on_of_nodup_map (skus_nodup definition) (List.mem_of_find?_eq_some found)
            member (by simpa using List.find?_some found)
        rw [isOther]
        exact List.mem_map_of_mem isStated
  · intro each sku fact isFact
    unfold pinnedFacts at isFact
    split at isFact
    · next variant found =>
        obtain ⟨stated, isStated, rfl⟩ := List.mem_map.mp isFact
        exact each variant (List.mem_of_find?_eq_some found) stated isStated
    · cases isFact

end Pinned

theorem forall_statements_iff (view : BuyerDiscoveryView) {holds : Fact → Prop} :
    (∀ statement ∈ view.statements, holds statement.2) ↔
      ∀ sku, ∀ fact ∈ view.factsOf sku, holds fact := by
  constructor
  · intro each sku fact isFact
    rw [← statedOf_statements, statedOf] at isFact
    obtain ⟨statement, isStated, rfl⟩ := List.mem_map.mp isFact
    exact each statement (List.mem_filter.mp isStated).1
  · intro each statement member
    refine each statement.1 statement.2 ?_
    rw [← statedOf_statements, statedOf]
    exact List.mem_map_of_mem (List.mem_filter.mpr ⟨member, decide_eq_true rfl⟩)

/-- What a model buyer is shown of a merchant's catalog does not depend on the attributes of the
variants; a compiled view shows under a SKU the pinned facts and nothing else, and the worker
reads it unless one of them is named like benchmark ground truth; and what the worker reads of a
view shows the same. -/
theorem discovery_boundary [TextColumns] [ArgumentReading] [OpaqueValues] :
    (∀ (view : Made BuyerDiscoveryView) (first second : MerchantSurface),
        first.AgreeButAttributes second →
        (view.fields.kind = .agentReady → SurfaceLookable first ∧ SurfaceLookable second) →
        ∀ call, catalogTool view.fields first call = catalogTool view.fields second call) ∧
      (∀ (definition : Made CommerceIRDefinition) (id : Uuid), ∃ view,
        buyerDiscoveryView "COMPILED" (some id) (some definition.fields.json) = .ok view ∧
          (∀ surface, SurfaceLookable surface → ∀ call,
            catalogTool view.fields surface call =
              answerCall (fun variant => pinnedAttributes definition.fields variant.sku) .ok
                surface call) ∧
          ((∃ decoded, viewFromPayload (toPayload view.fields) = .ok decoded) ↔
            ∀ variant ∈ pinnedVariants definition.fields,
              ∀ stated ∈ variant.fields.attributes, stated.fields.key ∉ oracleFields)) ∧
      ∀ representationKind id payload view,
        buyerDiscoveryView representationKind id payload = .ok view →
          ((∃ decoded, viewFromPayload (toPayload view.fields) = .ok decoded) ↔
            ∀ statement ∈ view.fields.statements, statement.2.IsPublishable) ∧
          ∀ decoded, viewFromPayload (toPayload view.fields) = .ok decoded →
            ∀ document, discover decoded.fields document = discover view.fields document := by
  refine ⟨?_, ?_, ?_⟩
  · intro view first second agree able call
    rw [catalogTool_eq (fun kind => (able kind).1), catalogTool_eq (fun kind => (able kind).2)]
    exact answerCall_agree agree (publishedAttributes view.fields) call
  · intro definition id
    obtain ⟨view, isView, kind, facts⟩ := buyerDiscoveryView_compiled definition id
    refine ⟨view, isView, fun surface able call => ?_, ?_⟩
    · have published : publishedAttributes view.fields = pinnedAttributes definition.fields := by
        funext sku
        rw [publishedAttributes, kind, pinnedAttributes, facts]
      rw [catalogTool_eq (fun _ => able), published]
    · rw [exists_decoded_iff, forall_statements_iff]
      simp only [facts]
      rw [forall_pinnedFacts_iff]
      simp only [isPublishable_pinnedFact]
  · intro representationKind id payload view _
    exact ⟨exists_decoded_iff view, fun decoded isDecoded => discover_decoded isDecoded⟩

/-! ## One charger -/

/-- A fact that the merchant states. -/
def statedFact (value : Value) : Made SemanticFact where
  fields :=
    { value := value, authority := .authoritative, confidence := .authoritative
      reviewState := .notRequired
      provenance := [{ fields := { field := "title" }, sound := by decide +kernel }] }
  sound := rfl

/-- A merchant may call an attribute what it likes. -/
def chargerAttribute (isTruthNamed : Bool) : Made CommerceAttribute where
  fields :=
    { key := if isTruthNamed then "expected_outcome" else "wattage"
      kind := .measurement, fact := statedFact (.integer 100), unit := some "W" }
  sound := by cases isTruthNamed <;> decide +kernel

def chargerVariant (isTruthNamed : Bool) : Made CommerceVariant where
  fields :=
    { sku := "CH-100", label := none, price := statedFact (.price 4999 "EUR")
      availability := statedFact (.text "TRUE"), attributes := [chargerAttribute isTruthNamed]
      compatibility := .empty }
  sound := by cases isTruthNamed <;> decide +kernel

def chargerProduct (isTruthNamed : Bool) : Made CommerceProduct where
  fields :=
    { externalId := "charger", title := statedFact (.text "Charger"), category := none
      variants := [chargerVariant isTruthNamed], policyFacts := .empty }
  sound := by cases isTruthNamed <;> decide +kernel

def zeroHash : ContentHash where
  text := "sha256:0000000000000000000000000000000000000000000000000000000000000000"
  isLabelled := by decide +kernel
  length := by decide +kernel

/-- A representation of one charger. -/
def chargerRepresentation (isTruthNamed : Bool) : Made CommerceIRDefinition where
  fields :=
    { sourceKey := "demo", sourceVersion := 1, sourceHash := zeroHash
      producer := .manualFixture, producerVersion := "1"
      products := [chargerProduct isTruthNamed] }
  sound := by cases isTruthNamed <;> decide +kernel

/-- No value of the sample is kept as its text. -/
@[reducible]
def noOpaqueValues : OpaqueValues where
  read _ := .null

/-- A compiled view with a fact named like benchmark ground truth is built, and not read. -/
theorem truthNamed_not_decoded :
    letI := noOpaqueValues
    ∃ view, buyerDiscoveryView "COMPILED" (some 7)
        (some (chargerRepresentation true).fields.json) = .ok view ∧
      ¬∃ decoded, viewFromPayload (toPayload view.fields) = .ok decoded := by
  let _ := noOpaqueValues
  obtain ⟨view, isView, _, facts⟩ := buyerDiscoveryView_compiled (chargerRepresentation true) 7
  refine ⟨view, isView, fun decoded => ?_⟩
  rw [exists_decoded_iff, forall_statements_iff] at decoded
  simp only [facts] at decoded
  rw [forall_pinnedFacts_iff] at decoded
  have free := (isPublishable_pinnedFact (chargerAttribute true)).mp
    (decoded (chargerVariant true) List.mem_cons_self _ List.mem_cons_self)
  exact free (by decide)

@[reducible]
def chargerColumns : TextColumns where
  ilike _ _ := false
  collation := KeyOrder.natural String

/-- A call without filters. -/
@[reducible]
def plainArguments : ArgumentReading where
  search arguments :=
    if arguments.isEmpty then
      some
        { query := none, maxPriceAmountMinor := none, currency := none, includeInactive := false
          isQuery := rfl, isCurrency := rfl, isPriced := by decide }
    else none
  str
    | .scalar (.string text) => text
    | _ => ""

def chargerProductRow : CatalogProduct where
  id := 2
  category := some "chargers"
  isActive := true
  merchantId := 1
  externalId := "charger"
  title := "Charger"
  description := none

def chargerVariantRow (attributes : Attributes) : CatalogVariant where
  id := 3
  merchantId := 1
  productId := 2
  priceAmountMinor := 4999
  currency := "EUR"
  inventoryQuantity := 4
  attributes := attributes
  isActive := true
  sku := "CH-100"
  label := none
  isCurrency := by decide +kernel

/-- A merchant with one charger. -/
def chargerSurface (attributes : Attributes) : MerchantSurface where
  merchant := { id := 1, slug := "demo", name := "Demo" }
  catalog :=
    { products := { rows := [chargerProductRow], keysNodup := List.nodup_singleton _ }
      variants := { rows := [chargerVariantRow attributes], keysNodup := List.nodup_singleton _ }
      externalIds := fun first firstMem second secondMem _ =>
        (List.mem_singleton.mp firstMem).trans (List.mem_singleton.mp secondMem).symm
      skus := fun first firstMem second secondMem _ =>
        (List.mem_singleton.mp firstMem).trans (List.mem_singleton.mp secondMem).symm
      filed := fun variant member =>
        ⟨chargerProductRow, List.mem_cons_self, by
          rw [List.mem_singleton.mp member]
          exact ⟨rfl, rfl⟩⟩ }

def wattage : Attributes where
  items := [("wattage", whole 100)]
  keysNodup := by decide

def noAttributes : Attributes where
  items := []
  keysNodup := List.nodup_nil

theorem chargerSurface_agree (first second : Attributes) :
    (chargerSurface first).AgreeButAttributes (chargerSurface second) where
  merchant := rfl
  products := List.Perm.refl _
  variants := List.Perm.refl _

/-- Two catalogs with one charger, one of which says its wattage; the pinned representation says
it in any case. -/
theorem discovery_boundary_sample :
    letI := chargerColumns
    letI := plainArguments
    letI := noOpaqueValues
    ∃ view, buyerDiscoveryView "COMPILED" (some 7)
        (some (chargerRepresentation false).fields.json) = .ok view ∧
      (∃ decoded, viewFromPayload (toPayload view.fields) = .ok decoded) ∧
      (∀ call, catalogTool view.fields (chargerSurface wattage) call =
        catalogTool view.fields (chargerSurface noAttributes) call) ∧
      ∀ call, catalogTool view.fields (chargerSurface wattage) call =
        answerCall
          (fun variant => pinnedAttributes (chargerRepresentation false).fields variant.sku) .ok
          (chargerSurface wattage) call := by
  let _ := chargerColumns
  let _ := plainArguments
  let _ := noOpaqueValues
  have able : ∀ attributes : Attributes, isLookable (.object attributes.items) = true →
      SurfaceLookable (chargerSurface attributes) := by
    intro attributes isAble variant member
    have isRow := (List.mem_filter.mp member).1
    rw [List.mem_singleton.mp isRow]
    exact isAble
  have ableFirst := able wattage (by decide)
  have ableSecond := able noAttributes (by decide)
  obtain ⟨sameShown, compiled, codec⟩ := discovery_boundary
  obtain ⟨view, isView, pinned, readable⟩ := compiled (chargerRepresentation false) 7
  refine ⟨view, isView, readable.mpr ?_, ?_, pinned _ ableFirst⟩
  · intro variant member stated isStated
    have isCharger : variant = chargerVariant false := List.mem_singleton.mp member
    subst isCharger
    have isWattage : stated = chargerAttribute false := List.mem_singleton.mp isStated
    subst isWattage
    decide
  · exact sameShown view _ _ (chargerSurface_agree _ _) fun _ => ⟨ableFirst, ableSecond⟩

end AgentRank.Benchmark
