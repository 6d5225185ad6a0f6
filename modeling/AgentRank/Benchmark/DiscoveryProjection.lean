import AgentRank.Benchmark.Discovery

/-!
# What the projection shows

An answer of the merchant's surface is projected variant by variant: what a buyer is shown under
the attributes of a variant is what the view publishes for its SKU, and the catalog's dictionary
is gone.
-/

namespace AgentRank.Benchmark

open Commerce Constraints Relational Store

/-! ## Documents the projection can read -/

/-- An object that holds attributes holds a SKU that can be looked up, when it holds one. -/
def namesLookable (fields : List (String × Json)) : Bool :=
  (fields.lookup "attributes").isNone || (fields.lookup "sku").all isHashable

variable {fields : List (String × Json)}

/-- Only which values have a hash matters. -/
theorem namesLookable_of_hashes {others : List (String × Json)}
    (same : ∀ name, (fields.lookup name).map isHashable = (others.lookup name).map isHashable) :
    namesLookable fields = namesLookable others := by
  have read : ∀ fields : List (String × Json), namesLookable fields =
      (((fields.lookup "attributes").map isHashable).isNone ||
        ((fields.lookup "sku").map isHashable).all id) := by
    intro fields
    rw [namesLookable, Option.isNone_map, Option.all_map]
    rfl
  rw [read, read, same, same]

mutual

/-- Every object of a document that holds attributes beside a SKU holds one that can be looked
up. -/
def isLookable : Json → Bool
  | .null => true
  | .scalar _ => true
  | .array items => areLookable items
  | .object fields => namesLookable fields && fieldsLookable fields

def areLookable : List Json → Bool
  | [] => true
  | item :: rest => isLookable item && areLookable rest

def fieldsLookable : List (String × Json) → Bool
  | [] => true
  | (_, value) :: rest => isLookable value && fieldsLookable rest

end

variable {view : BuyerDiscoveryView}

/-- A storefront looks nothing up. -/
theorem exists_factsUnder {sku : Json} (able : view.kind = .agentReady → isHashable sku = true) :
    ∃ facts, factsUnder view sku = .ok facts := by
  unfold factsUnder
  cases kind : view.kind with
  | storefront => exact ⟨[], rfl⟩
  | agentReady =>
      dsimp only
      split
      · exact ⟨_, rfl⟩
      · exact ⟨[], by rw [if_pos (able kind)]⟩

variable {projected : List (String × Json)}

theorem present_of_found {held sku : Json} {facts : List Fact}
    (isHeld : projected.lookup "attributes" = some held)
    (isSku : projected.lookup "sku" = some sku) (found : factsUnder view sku = .ok facts) :
    present view projected =
      .ok (if facts.isEmpty then projected.filter fun field => field.1 != "attributes"
        else projected.map fun field =>
          if field.1 = "attributes" then (field.1, .array (facts.map Fact.document))
          else field) := by
  unfold present
  rw [isHeld, isSku]
  change (factsUnder view sku >>= _) = _
  rw [found]
  change (if facts.isEmpty then _ else _) = _
  split <;> rfl

theorem present_of_absent (absent : projected.lookup "attributes" = none) :
    present view projected = .ok projected := by
  unfold present
  rw [absent]

theorem exists_present (able : view.kind = .agentReady → namesLookable projected = true) :
    ∃ shown, present view projected = .ok shown := by
  cases isHeld : projected.lookup "attributes" with
  | none => exact ⟨projected, present_of_absent isHeld⟩
  | some held =>
      cases isSku : projected.lookup "sku" with
      | none => exact ⟨projected, by unfold present; rw [isHeld, isSku]⟩
      | some sku =>
          have ableSku : view.kind = .agentReady → isHashable sku = true := by
            intro kind
            simpa [namesLookable, isHeld, isSku] using able kind
          obtain ⟨facts, found⟩ := exists_factsUnder ableSku
          exact ⟨_, present_of_found isHeld isSku found⟩

theorem project_object {shown : List (String × Json)}
    (isProjected : projectFields view fields = .ok projected)
    (isShown : present view projected = .ok shown) :
    project view (.object fields) = .ok (.object shown) := by
  rw [project, isProjected]
  change (do return Json.object (← present view projected)) = _
  rw [isShown]
  rfl

mutual

/-- The projection goes through a document that it can read.  It keeps lists lists and objects
objects, so what it looks up can be looked up before and after. -/
theorem exists_project (view : BuyerDiscoveryView) : ∀ document : Json,
    (view.kind = .agentReady → isLookable document = true) →
      ∃ shown, project view document = .ok shown ∧ isHashable shown = isHashable document
  | .null, _ => ⟨.null, rfl, rfl⟩
  | .scalar value, _ => ⟨.scalar value, rfl, rfl⟩
  | .array items, able => by
      obtain ⟨shown, isShown⟩ := exists_projectItems view items able
      refine ⟨.array shown, ?_, rfl⟩
      rw [project, isShown]
      rfl
  | .object fields, able => by
      have both : view.kind = .agentReady →
          namesLookable fields = true ∧ fieldsLookable fields = true := fun kind =>
        Bool.and_eq_true_iff.mp (able kind)
      obtain ⟨projected, isProjected, sameHash⟩ :=
        exists_projectFields view fields fun kind => (both kind).2
      have ableNames : view.kind = .agentReady → namesLookable projected = true := by
        intro kind
        rw [namesLookable_of_hashes sameHash]
        exact (both kind).1
      obtain ⟨shown, isShown⟩ := exists_present ableNames
      exact ⟨.object shown, project_object isProjected isShown, rfl⟩

theorem exists_projectItems (view : BuyerDiscoveryView) : ∀ items : List Json,
    (view.kind = .agentReady → areLookable items = true) →
      ∃ shown, projectItems view items = .ok shown
  | [], _ => ⟨[], rfl⟩
  | item :: rest, able => by
      have both : view.kind = .agentReady →
          isLookable item = true ∧ areLookable rest = true := fun kind =>
        Bool.and_eq_true_iff.mp (able kind)
      obtain ⟨first, isFirst, _⟩ := exists_project view item fun kind => (both kind).1
      obtain ⟨later, isLater⟩ := exists_projectItems view rest fun kind => (both kind).2
      refine ⟨first :: later, ?_⟩
      rw [projectItems, isFirst, isLater]
      rfl

theorem exists_projectFields (view : BuyerDiscoveryView) : ∀ fields : List (String × Json),
    (view.kind = .agentReady → fieldsLookable fields = true) →
      ∃ shown, projectFields view fields = .ok shown ∧ ∀ name,
        (shown.lookup name).map isHashable = (fields.lookup name).map isHashable
  | [], _ => ⟨[], rfl, fun _ => rfl⟩
  | (name, value) :: rest, able => by
      have both : view.kind = .agentReady →
          isLookable value = true ∧ fieldsLookable rest = true := fun kind =>
        Bool.and_eq_true_iff.mp (able kind)
      obtain ⟨first, isFirst, firstHash⟩ := exists_project view value fun kind => (both kind).1
      obtain ⟨later, isLater, laterHash⟩ :=
        exists_projectFields view rest fun kind => (both kind).2
      refine ⟨(name, first) :: later, ?_, fun asked => ?_⟩
      · rw [projectFields, isFirst, isLater]
        rfl
      · rw [Mapping.lookup_cons_ite, Mapping.lookup_cons_ite]
        by_cases isName : asked = name
        · rw [if_pos isName, if_pos isName, Option.map_some, Option.map_some, firstHash]
        · rw [if_neg isName, if_neg isName, laterHash]

end

/-- What a buyer reads under the attributes of a SKU: the facts of the view, if there are any. -/
def publishedAttributes (view : BuyerDiscoveryView) (sku : String) : Option Json :=
  match view.kind with
  | .storefront => none
  | .agentReady =>
      if (view.factsOf sku).isEmpty then none
      else some (.array ((view.factsOf sku).map Fact.document))

@[simp]
theorem project_text (view : BuyerDiscoveryView) (text : String) :
    project view (Payload.text text) = .ok (Payload.text text) :=
  rfl

@[simp]
theorem project_uuid (view : BuyerDiscoveryView) (id : Uuid) :
    project view (Payload.uuid id) = .ok (Payload.uuid id) :=
  rfl

@[simp]
theorem project_number (view : BuyerDiscoveryView) (value : Nat) :
    project view (Payload.number value) = .ok (Payload.number value) :=
  rfl

@[simp]
theorem project_boolean (view : BuyerDiscoveryView) (value : Bool) :
    project view (boolean value) = .ok (boolean value) :=
  rfl

@[simp]
theorem project_optionalText (view : BuyerDiscoveryView) (text : Option String) :
    project view (Payload.optionalText text) = .ok (Payload.optionalText text) := by
  cases text <;> rfl

/-- Fields whose values the projection leaves as they are. -/
theorem projectFields_of_fixed (fixed : ∀ field ∈ fields, project view field.2 = .ok field.2) :
    projectFields view fields = .ok fields := by
  induction fields with
  | nil => rfl
  | cons field rest ih =>
      obtain ⟨name, value⟩ := field
      rw [List.forall_mem_cons] at fixed
      rw [projectFields, fixed.1, ih fixed.2]
      rfl

theorem projectItems_map {α : Type} {items : List α} {written shown : α → Json}
    (each : ∀ item ∈ items, project view (written item) = .ok (shown item)) :
    projectItems view (items.map written) = .ok (items.map shown) := by
  induction items with
  | nil => rfl
  | cons item rest ih =>
      rw [List.forall_mem_cons] at each
      rw [List.map_cons, projectItems, each.1, ih each.2]
      rfl

theorem factsUnder_text (view : BuyerDiscoveryView) (sku : String) :
    ∃ facts, factsUnder view (Payload.text sku) = .ok facts ∧
      publishedAttributes view sku =
        if facts.isEmpty then none else some (.array (facts.map Fact.document)) := by
  unfold factsUnder publishedAttributes
  cases view.kind with
  | storefront => exact ⟨[], rfl, rfl⟩
  | agentReady => exact ⟨view.factsOf sku, rfl, rfl⟩

/-- The projection replaces the dictionary of a variant by what the view publishes. -/
theorem project_variantView {variant : CatalogVariant}
    (able : view.kind = .agentReady →
      isLookable (.object variant.attributes.items) = true) :
    project view (variantView catalogAttributes variant) =
      .ok (variantView (fun variant => publishedAttributes view variant.sku) variant) := by
  obtain ⟨inner, isInner, _⟩ := exists_project view (.object variant.attributes.items) able
  obtain ⟨facts, found, published⟩ := factsUnder_text view variant.sku
  have fields : projectFields view
      [("id", Payload.uuid variant.id), ("sku", Payload.text variant.sku),
        ("label", Payload.optionalText variant.label),
        ("attributes", .object variant.attributes.items),
        ("price_amount_minor", Payload.number variant.priceAmountMinor),
        ("currency", Payload.text variant.currency),
        ("inventory_quantity", Payload.number variant.inventoryQuantity),
        ("is_active", boolean variant.isActive)] =
      .ok [("id", Payload.uuid variant.id), ("sku", Payload.text variant.sku),
        ("label", Payload.optionalText variant.label), ("attributes", inner),
        ("price_amount_minor", Payload.number variant.priceAmountMinor),
        ("currency", Payload.text variant.currency),
        ("inventory_quantity", Payload.number variant.inventoryQuantity),
        ("is_active", boolean variant.isActive)] := by
    simp only [projectFields, project_uuid, project_text, project_optionalText, isInner,
      project_number, project_boolean]
    rfl
  refine (project_object fields (present_of_found rfl rfl found)).trans (congrArg Except.ok ?_)
  rw [variantView, published]
  cases facts with
  | nil => rfl
  | cons fact rest => rfl

theorem project_merchant (view : BuyerDiscoveryView) (merchant : MerchantSummary) :
    project view merchant.document = .ok merchant.document := by
  refine project_object (projectFields_of_fixed ?_) (present_of_absent rfl)
  simp

/-- The dictionaries of the variants that are shown can be read. -/
def VariantsLookable (view : BuyerDiscoveryView) (variants : List CatalogVariant) : Prop :=
  view.kind = .agentReady →
    ∀ variant ∈ variants, isLookable (.object variant.attributes.items) = true

theorem project_productView {name : String} (isList : name ≠ "attributes")
    {merchant : MerchantSummary} {found : ProductMatch}
    (able : VariantsLookable view found.eligibleVariants) :
    project view (productView catalogAttributes name merchant found) =
      .ok (productView (fun variant => publishedAttributes view variant.sku) name merchant
        found) := by
  have variants := projectItems_map fun variant member =>
    project_variantView fun kind => able kind variant member
  have isArray : project view (.array (found.eligibleVariants.map
      (variantView catalogAttributes))) =
      .ok (.array (found.eligibleVariants.map
        (variantView fun variant => publishedAttributes view variant.sku))) := by
    rw [project, variants]
    rfl
  have fields : projectFields view (productIdentity merchant found.product ++
      [(name, .array (found.eligibleVariants.map (variantView catalogAttributes)))]) =
      .ok (productIdentity merchant found.product ++
        [(name, .array (found.eligibleVariants.map
          (variantView fun variant => publishedAttributes view variant.sku)))]) := by
    simp only [productIdentity, List.cons_append, List.nil_append, projectFields, project_uuid,
      project_text, project_optionalText, project_boolean, project_merchant, isArray]
    rfl
  refine project_object fields (present_of_absent ?_)
  simp [productIdentity, List.lookup, beq_false_of_ne isList.symm]

/-- What a search shows is what the surface says, with the published facts in place of the
dictionaries. -/
theorem project_searchResponse {merchant : MerchantSummary} {found : List ProductMatch}
    {limit : Nat} (able : ∀ one ∈ found, VariantsLookable view one.eligibleVariants) :
    project view (productSearchResponse catalogAttributes merchant found limit) =
      .ok (productSearchResponse (fun variant => publishedAttributes view variant.sku) merchant
        found limit) := by
  have results : projectItems view
      (found.map (productView catalogAttributes "eligible_variants" merchant)) =
      .ok (found.map (productView (fun variant => publishedAttributes view variant.sku)
        "eligible_variants" merchant)) :=
    projectItems_map fun one member => project_productView (by decide) (able one member)
  have isArray : project view
      (.array (found.map (productView catalogAttributes "eligible_variants" merchant))) =
      .ok (.array (found.map (productView (fun variant => publishedAttributes view variant.sku)
        "eligible_variants" merchant))) := by
    rw [project, results]
    rfl
  have fields : projectFields view
      [("results",
          .array (found.map (productView catalogAttributes "eligible_variants" merchant))),
        ("count", Payload.number found.length), ("limit", Payload.number limit)] =
      .ok [("results",
          .array (found.map (productView (fun variant => publishedAttributes view variant.sku)
            "eligible_variants" merchant))),
        ("count", Payload.number found.length), ("limit", Payload.number limit)] := by
    simp only [projectFields, isArray, project_number]
    rfl
  exact project_object fields (present_of_absent rfl)

/-- The dictionaries of a merchant's variants can be read by the projection. -/
def SurfaceLookable (surface : MerchantSurface) : Prop :=
  ∀ variant ∈ surface.variants, isLookable (.object variant.attributes.items) = true

section Tools

variable [TextColumns]

variable {surface : MerchantSurface}

theorem answerSearch_eq (able : view.kind = .agentReady → SurfaceLookable surface)
    (request : ProductSearchRequest) :
    answerSearch catalogAttributes (discover view) surface request =
      answerSearch (fun variant => publishedAttributes view variant.sku) .ok surface request := by
  have ableFound : ∀ one ∈ searchProducts surface.catalog (request.toCriteria surface.merchant.id),
      VariantsLookable view one.eligibleVariants := by
    intro one member kind variant isShown
    rw [MerchantSurface.searchProducts_eq rfl] at member
    obtain ⟨product, _, rfl⟩ := List.mem_map.mp member
    exact able kind variant (MerchantSurface.mem_variants_of_shown isShown)
  unfold answerSearch discover
  dsimp only
  rw [project_searchResponse ableFound]

theorem answerProduct_eq (able : view.kind = .agentReady → SurfaceLookable surface) (id : Uuid) :
    answerProduct catalogAttributes (discover view) surface id =
      answerProduct (fun variant => publishedAttributes view variant.sku) .ok surface id := by
  unfold answerProduct discover
  cases isFound : getProduct surface.catalog id surface.merchant.id with
  | none => rfl
  | some found =>
      have ableFound : VariantsLookable view found.eligibleVariants := by
        intro kind variant isShown
        rw [MerchantSurface.getProduct_eq] at isFound
        obtain ⟨product, _, rfl⟩ := Option.map_eq_some_iff.mp isFound
        exact able kind variant (MerchantSurface.mem_variants_of_shown isShown)
      exact project_productView (by decide) ableFound

/-- What a model buyer is shown is what the surface says, with the published facts in place of
the dictionaries. -/
theorem catalogTool_eq [ArgumentReading]
    (able : view.kind = .agentReady → SurfaceLookable surface) (call : CatalogCall) :
    catalogTool view surface call =
      answerCall (fun variant => publishedAttributes view variant.sku) .ok surface call := by
  rw [catalogTool, answerCall, answerCall, funext (answerSearch_eq able),
    funext (answerProduct_eq able)]

/-- What is presented by the SKU is the same for catalogs that differ in attributes only. -/
theorem answerCall_agree [ArgumentReading] {first second : MerchantSurface}
    (agree : first.AgreeButAttributes second) (published : String → Option Json)
    (call : CatalogCall) :
    answerCall (fun variant => published variant.sku) .ok first call =
      answerCall (fun variant => published variant.sku) .ok second call := by
  have unseen : ∀ variant : CatalogVariant,
      published variant.bare.sku = published variant.sku := fun _ => rfl
  have sameSearch : answerSearch (fun variant => published variant.sku) .ok first =
      answerSearch (fun variant => published variant.sku) .ok second := by
    funext request
    have same := agree.searchProducts_eq request
    have sameLength := congrArg List.length same
    rw [List.length_map, List.length_map] at sameLength
    have sameResponse := congrArg (fun found =>
      productSearchResponse (fun variant => published variant.sku) first.merchant found
        request.limit) same
    rw [productSearchResponse_bare unseen, productSearchResponse_bare unseen] at sameResponse
    unfold answerSearch
    dsimp only
    rw [sameResponse, sameLength, agree.merchant]
  have sameProduct : answerProduct (fun variant => published variant.sku) .ok first =
      answerProduct (fun variant => published variant.sku) .ok second := by
    funext id
    have same := agree.getProduct_eq id
    unfold answerProduct
    cases isFound : getProduct first.catalog id first.merchant.id with
    | none =>
        rw [isFound, Option.map_none, eq_comm, Option.map_eq_none_iff] at same
        rw [same]
    | some found =>
        rw [isFound, Option.map_some, eq_comm, Option.map_eq_some_iff] at same
        obtain ⟨other, isOther, sameBare⟩ := same
        rw [isOther]
        have sameView := congrArg
          (productView (fun variant => published variant.sku) "variants" first.merchant) sameBare
        rw [productView_bare unseen, productView_bare unseen] at sameView
        rw [agree.merchant] at sameView
        exact congrArg Except.ok ((congrArg (productDetail _ · found) agree.merchant).trans
          sameView.symm)
  rw [answerCall, answerCall, sameSearch, sameProduct]

end Tools

end AgentRank.Benchmark
