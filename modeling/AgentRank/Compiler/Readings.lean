import AgentRank.Compiler.Extraction

/-!
# What the readings of a source are

Every reading cites a field that the document declares and a text that stands in it, is about
something the document describes, and is the only one about it.  So its proposal is made, and
what can refuse it later is the length of its excerpt alone.
-/

namespace AgentRank.Compiler

open Constraints Relational Representation Store Text

/-- The value, the kind and the unit of a reading agree. -/
structure Reading.Typed (reading : Reading) : Prop where
  held : ∀ kind, reading.attributeKind = some kind → kind.holds reading.value = true
  measured : reading.attributeKind = some .measurement →
    ∃ unit, reading.unit = some unit ∧ isBlank unit = false
  unmeasured : reading.attributeKind ≠ some .measurement → reading.unit = none

/-- A reading that cites a field of some fields. -/
structure Reading.Cites (reading : Reading) (text : String) : Prop where
  within : ∀ excerpt, reading.basis.excerpt = some excerpt → excerpt.toList <:+: text.toList
  visible : ∀ excerpt, reading.basis.excerpt = some excerpt → isBlank excerpt = false

/-- What a subject is about is in the document. -/
def Subject.IsOf (source : MerchantSourceDefinition) : Subject → Prop
  | product externalId _ => externalId ∈ source.externalIds
  | variant sku _ => sku ∈ source.skus
  | policy _ => True

structure Reading.Sound (source : MerchantSourceDefinition) (reading : Reading) : Prop where
  subject : reading.subject.IsOf source
  typed : reading.Typed
  cited : ∃ text, (reading.field, text) ∈ declaredFields source ∧ reading.Cites text

variable {source : MerchantSourceDefinition}

theorem Subject.IsOf.plain {subject : Subject} (isOf : subject.IsOf source)
    (plain : PlainIdentifiers source) : subject.Plain := by
  cases subject with
  | product externalId field => exact plain.externalIds _ isOf
  | variant sku field => exact plain.skus _ isOf
  | policy name => trivial

variable {reading : Reading}

theorem cites_authoritative (copied : reading.basis = .authoritative) (text : String) :
    reading.Cites text where
  within excerpt isExcerpt := by
    rw [copied] at isExcerpt
    cases isExcerpt
  visible excerpt isExcerpt := by
    rw [copied] at isExcerpt
    cases isExcerpt

/-- A reading of a text that was found in a field. -/
theorem cites_found {text : String} {found : List Char}
    (isExcerpt : reading.basis.excerpt = some (String.ofList found))
    (within : found <:+: text.toList) (visible : ∃ char ∈ found, isSpace char = false) :
    reading.Cites text where
  within excerpt isOther := by
    cases isExcerpt.symm.trans isOther
    rwa [String.toList_ofList]
  visible excerpt isOther := by
    cases isExcerpt.symm.trans isOther
    obtain ⟨char, member, isVisible⟩ := visible
    exact isBlank_of_visible (by rwa [String.toList_ofList]) isVisible

section Patterns

variable [CharacterTables]

theorem wattagePattern_visible : wattagePattern.Takes fun char => isSpace char = false := by
  have letter : (Pattern.char (ignoringCase 'w')).Takes fun char => isSpace char = false :=
    Pattern.takes_char fun char accepted =>
      isSpace_of_ignoringCase (by decide) accepted
  exact letter.left.right.right.right

theorem portsPattern_visible : portsPattern.Takes fun char => isSpace char = false :=
  (takes_wordIgnoringCase rfl (by decide)).left.right.right.right

theorem powerDeliveryPattern_visible :
    powerDeliveryPattern.Takes fun char => isSpace char = false :=
  (takes_wordIgnoringCase rfl (by decide)).left.right

theorem cablePattern_visible : cablePattern.Takes fun char => isSpace char = false :=
  (takes_wordIgnoringCase rfl (by decide)).left

theorem yearPattern_visible : yearPattern.Takes fun char => isSpace char = false :=
  (takes_wordIgnoringCase rfl (by decide)).left.right.right.right

theorem lengthPattern_visible : lengthPattern.Takes fun char => isSpace char = false := by
  have letter : (Pattern.char (ignoringCase 'm')).Takes fun char => isSpace char = false :=
    Pattern.takes_char fun char accepted =>
      isSpace_of_ignoringCase (by decide) accepted
  exact letter.left.right.right.right

end Patterns

/-! ## The readings of a product -/

/-- A reading of one product. -/
structure Reading.OfProduct (product : SourceProduct) (reading : Reading) : Prop where
  about : (∃ field, reading.subject = .product product.externalId field) ∨
    ∃ variant ∈ product.variants, ∃ field, reading.subject = .variant variant.fields.sku field
  typed : reading.Typed
  cited : ∃ field text, reading.field = .product product.externalId field ∧
    (field, text) ∈ productFields product ∧ reading.Cites text

variable {variant : Made SourceVariant}

theorem variantField_mem {product : SourceProduct} (member : variant ∈ product.variants)
    {field : VariantField} {text : String}
    (declared : (field, text) ∈ variantFields variant.fields) :
    (.variant variant.fields.sku field, text) ∈ productFields product :=
  List.mem_append_right _ (mem_variantEntries.mpr ⟨variant, member, _, declared, rfl⟩)

theorem textFields_mem {product : SourceProduct} {field : ProductField × String}
    (member : field ∈ textFields product) : field ∈ productFields product :=
  List.mem_append_left _ (List.mem_append_left _ member)

theorem lastTextField_mem (product : SourceProduct) :
    lastTextField product ∈ textFields product := by
  unfold lastTextField textFields
  split
  · next text described => simp [described]
  · exact List.mem_cons_self

section Product

variable {product : SourceProduct}

theorem typed_of_no_kind (noKind : reading.attributeKind = none) (noUnit : reading.unit = none) :
    reading.Typed where
  held kind isKind := by
    rw [noKind] at isKind
    cases isKind
  measured isKind := by
    rw [noKind] at isKind
    cases isKind
  unmeasured _ := noUnit

theorem typed_of_kind {kind : AttributeKind} (isKind : reading.attributeKind = some kind)
    (isOther : kind ≠ .measurement) (noUnit : reading.unit = none)
    (held : kind.holds reading.value = true) :
    reading.Typed where
  held other isOtherKind := by
    cases isKind.symm.trans isOtherKind
    exact held
  measured isMeasurement := by
    cases isKind.symm.trans isMeasurement
    exact absurd rfl isOther
  unmeasured _ := noUnit

theorem typed_of_measurement {unit : String} {value : Int}
    (isKind : reading.attributeKind = some .measurement) (isUnit : reading.unit = some unit)
    (visible : isBlank unit = false) (isValue : reading.value = .integer value) :
    reading.Typed where
  held kind isOther := by
    cases isKind.symm.trans isOther
    rw [isValue]
    rfl
  measured _ := ⟨unit, isUnit, visible⟩
  unmeasured isOther := absurd isKind isOther

theorem titleReading_ofProduct : (titleReading product).OfProduct product where
  about := Or.inl ⟨.title, rfl⟩
  typed := typed_of_no_kind rfl rfl
  cited := ⟨.title, product.title, rfl, List.mem_cons_self, cites_authoritative rfl _⟩

theorem categoryReading_ofProduct (isReading : categoryReading product = some reading) :
    reading.OfProduct product := by
  obtain ⟨category, isCategory, rfl⟩ := Option.map_eq_some_iff.mp isReading
  refine ⟨Or.inl ⟨.category, rfl⟩, typed_of_no_kind rfl rfl, .category, category, rfl, ?_,
    cites_authoritative rfl _⟩
  simp [productFields, isCategory]

theorem priceReading_ofProduct (member : variant ∈ product.variants) :
    (priceReading product.externalId variant.fields).OfProduct product where
  about := Or.inr ⟨variant, member, .price, rfl⟩
  typed := typed_of_no_kind rfl rfl
  cited := ⟨_, _, rfl, variantField_mem member List.mem_cons_self, cites_authoritative rfl _⟩

theorem availabilityReading_ofProduct (member : variant ∈ product.variants) :
    (availabilityReading product.externalId variant.fields).OfProduct product where
  about := Or.inr ⟨variant, member, .availability, rfl⟩
  typed := typed_of_no_kind rfl rfl
  cited := by
    refine ⟨_, (stockField variant.fields).2, rfl, variantField_mem member ?_,
      cites_authoritative rfl _⟩
    have stock : stockField variant.fields ∈ variantFields variant.fields := by
      simp [variantFields]
    have isField : (stockField variant.fields).1 =
        if variant.fields.inventoryQuantity.isNone then .availability else .inventoryQuantity := by
      unfold stockField
      cases variant.fields.inventoryQuantity <;> rfl
    rwa [← isField]

/-- A reading that is repeated for every variant. -/
theorem forVariants_ofProduct {reading : String → Reading} {field : ProductField}
    {text : String} {subject : VariantSubject}
    (isAbout : ∀ sku, (reading sku).subject = .variant sku subject)
    (typed : ∀ sku, (reading sku).Typed)
    (isField : ∀ sku, (reading sku).field = .product product.externalId field)
    (declared : (field, text) ∈ productFields product)
    (cites : ∀ sku, (reading sku).Cites text) {one : Reading}
    (member : one ∈ forVariants product reading) : one.OfProduct product := by
  rcases List.mem_map.mp member with ⟨variant, variantMem, rfl⟩
  exact ⟨Or.inr ⟨variant, variantMem, subject, isAbout _⟩, typed _, field, text, isField _, declared,
    cites _⟩

variable [CharacterTables]

theorem colorReading_ofProduct (member : variant ∈ product.variants)
    (isReading : colorReading product.externalId variant.fields = some reading) :
    reading.OfProduct product := by
  unfold colorReading at isReading
  split at isReading
  · next finish isFinish =>
      split at isReading
      · cases isReading
      · cases isReading
        refine ⟨Or.inr ⟨variant, member, .feature "color", rfl⟩,
          typed_of_kind rfl (by decide) rfl rfl, _, finish, rfl, variantField_mem member ?_,
          cites_authoritative rfl _⟩
        have declared : (VariantField.metadata "finish", finish) ∈ metadataFields variant.fields :=
          List.mem_filterMap.mpr ⟨_, Mapping.get?_eq_some_iff.mp isFinish, rfl⟩
        simp [variantFields, declared]
  · cases isReading

theorem lengthReading_ofProduct (member : variant ∈ product.variants)
    (isReading : lengthReading product.externalId variant.fields = some reading) :
    reading.OfProduct product := by
  obtain ⟨label, isLabel, isReading⟩ := Option.bind_eq_some_iff.mp isReading
  obtain ⟨found, isFound, rfl⟩ := Option.map_eq_some_iff.mp isReading
  refine ⟨Or.inr ⟨variant, member, .feature "length", rfl⟩,
    typed_of_measurement rfl rfl (by decide) rfl, _, label, rfl, variantField_mem member ?_,
    cites_found rfl ?_ ?_⟩
  · simp [variantFields, isLabel]
  · rw [fullMatch_text isFound]
    exact stripChars_within _
  · obtain ⟨char, charMem, visible⟩ := lengthPattern_visible _ _ found
      (List.mem_of_find?_eq_some isFound)
    exact ⟨char, mem_stripChars_of_visible charMem visible, visible⟩

theorem variantReadings_ofProduct (member : variant ∈ product.variants)
    (readingMem : reading ∈ variantReadings product.externalId variant.fields) :
    reading.OfProduct product := by
  simp only [variantReadings, List.cons_append, List.mem_cons, List.mem_append,
    Option.mem_toList] at readingMem
  rcases readingMem with rfl | rfl | isColor | isLength
  · exact priceReading_ofProduct member
  · exact availabilityReading_ofProduct member
  · exact colorReading_ofProduct member isColor
  · exact lengthReading_ofProduct member isLength

theorem mem_wattages {field : ProductField} {found : Match}
    (member : (field, found) ∈ wattages product) :
    ∃ text, (field, text) ∈ textFields product ∧ found ∈ findAll wattagePattern text := by
  rcases List.mem_flatMap.mp member with ⟨⟨other, text⟩, fieldMem, inText⟩
  rcases List.mem_map.mp inText with ⟨_, foundMem, same⟩
  cases same
  exact ⟨text, fieldMem, foundMem⟩

theorem wattageReadings_ofProduct (member : reading ∈ wattageReadings product) :
    reading.OfProduct product := by
  unfold wattageReadings at member
  split at member
  · cases member
  · next field found others isFirst =>
      have first : (field, found) ∈ wattages product := by
        rw [isFirst]
        exact List.mem_cons_self
      obtain ⟨text, textMem, foundMem⟩ := mem_wattages first
      have within := findAll_within foundMem
      have visible := findAll_takes wattagePattern_visible foundMem
      split at member
      · exact forVariants_ofProduct (fun _ => rfl)
          (fun _ => typed_of_measurement rfl rfl (by decide) rfl) (fun _ => rfl)
          (textFields_mem textMem) (fun _ => cites_found rfl within visible) member
      · exact forVariants_ofProduct (fun _ => rfl)
          (fun _ => typed_of_measurement rfl rfl (by decide) rfl) (fun _ => rfl)
          (textFields_mem textMem) (fun _ => cites_found rfl within visible) member

theorem portReadings_ofProduct (member : reading ∈ portReadings product) :
    reading.OfProduct product := by
  unfold portReadings at member
  split at member
  · cases member
  · next found isFound =>
      obtain ⟨text, described, isFound⟩ := Option.bind_eq_some_iff.mp isFound
      have declared : (ProductField.description, text) ∈ productFields product := by
        simp [productFields, described]
      exact forVariants_ofProduct (fun _ => rfl) (fun _ => typed_of_kind rfl (by decide) rfl rfl)
        (fun _ => rfl) declared
        (fun _ => cites_found rfl (search_within isFound)
          (search_takes portsPattern_visible isFound)) member

theorem connectorReadings_ofProduct (member : reading ∈ connectorReadings product) :
    reading.OfProduct product := by
  unfold connectorReadings at member
  split at member
  · split at member
    · cases member
    · next found isFound =>
        exact forVariants_ofProduct (fun _ => rfl) (fun _ => typed_of_no_kind rfl rfl)
          (fun _ => rfl) (textFields_mem (lastTextField_mem product))
          (fun _ => cites_found rfl (search_within isFound)
            (search_takes powerDeliveryPattern_visible isFound)) member
  · split at member
    · split at member
      · cases member
      · next found isFound =>
          exact forVariants_ofProduct (fun _ => rfl) (fun _ => typed_of_no_kind rfl rfl)
            (fun _ => rfl) List.mem_cons_self
            (fun _ => cites_found rfl (search_within isFound)
              (search_takes cablePattern_visible isFound)) member
    · cases member

theorem semanticReadings_ofProduct (member : reading ∈ semanticReadings product) :
    reading.OfProduct product := by
  unfold semanticReadings at member
  split at member
  · cases member
  · simp only [List.mem_append] at member
    rcases member with (isWattage | isPorts) | isConnector
    · exact wattageReadings_ofProduct isWattage
    · exact portReadings_ofProduct isPorts
    · exact connectorReadings_ofProduct isConnector

theorem productReadings_ofProduct (member : reading ∈ productReadings product) :
    reading.OfProduct product := by
  simp only [productReadings, List.cons_append, List.mem_cons, List.mem_append,
    Option.mem_toList, List.mem_flatMap] at member
  rcases member with rfl | (isCategory | ⟨variant, variantMem, isVariant⟩) | isSemantic
  · exact titleReading_ofProduct
  · exact categoryReading_ofProduct isCategory
  · exact variantReadings_ofProduct variantMem isVariant
  · exact semanticReadings_ofProduct isSemantic

end Product

section Document

variable {source : MerchantSourceDefinition}

theorem Reading.OfProduct.sound {product : Made SourceProduct}
    (productMem : product ∈ source.products) (ofProduct : reading.OfProduct product.fields) :
    reading.Sound source where
  subject := by
    rcases ofProduct.about with ⟨field, isAbout⟩ | ⟨variant, variantMem, field, isAbout⟩
    · rw [isAbout]
      exact List.mem_map_of_mem productMem
    · rw [isAbout]
      exact List.mem_map_of_mem (mem_variants_iff.mpr ⟨product, productMem, variantMem⟩)
  typed := ofProduct.typed
  cited := by
    obtain ⟨field, text, isField, declared, cites⟩ := ofProduct.cited
    refine ⟨text, ?_, cites⟩
    rw [isField]
    exact mem_declaredFields.mpr (Or.inl ⟨product, productMem, _, declared, rfl⟩)

variable [CharacterTables]

theorem warrantyReadings_sound (member : reading ∈ warrantyReadings source) :
    reading.Sound source ∧ reading.subject = .policy "warranty_months" := by
  unfold warrantyReadings at member
  split at member
  · cases member
  · next warranty isWarranty =>
      split at member
      · cases member
      · next found isFound =>
          split at member
          · cases member
          · cases List.mem_singleton.mp member
            refine ⟨⟨trivial, typed_of_kind rfl (by decide) rfl rfl, warranty, ?_,
              cites_found rfl (search_within isFound)
                (search_takes yearPattern_visible isFound)⟩, rfl⟩
            exact mem_declaredFields.mpr
              (Or.inr ⟨_, Mapping.get?_eq_some_iff.mp isWarranty, rfl⟩)

theorem readings_sound (member : reading ∈ readings source) :
    reading.Sound source := by
  rcases List.mem_append.mp member with ofProducts | ofPolicy
  · rcases List.mem_flatMap.mp ofProducts with ⟨product, productMem, ofProduct⟩
    exact (productReadings_ofProduct ofProduct).sound productMem
  · exact (warrantyReadings_sound ofPolicy).1

end Document

/-! ## One reading about one subject -/

/-- A field of every variant of a product. -/
def everyVariant (product : SourceProduct) (field : VariantSubject) : List Subject :=
  product.variants.map fun variant => .variant variant.fields.sku field

/-- The subjects that a variant can be read about on its own. -/
def ownSubjects (sku : String) : List Subject :=
  [VariantSubject.price, .availability, .feature "color", .feature "length"].map
    (Subject.variant sku)

/-- The subjects that a product can be read about. -/
def productSubjects (product : SourceProduct) : List Subject :=
  [.product product.externalId .title, .product product.externalId .category] ++
    (product.variants.flatMap fun variant => ownSubjects variant.fields.sku) ++
    ([VariantSubject.feature "wattage", .feature "ports", .compatibility "usb-c-pd",
      .compatibility "usb-c"].flatMap (everyVariant product))

section Subjects

variable {product : SourceProduct}

theorem everyVariant_nodup
    (distinct : (product.variants.map fun variant => variant.fields.sku).Nodup)
    (field : VariantSubject) : (everyVariant product field).Nodup := by
  have renamed := distinct.map fun first second
    (same : Subject.variant first field = .variant second field) => (Subject.variant.inj same).1
  rwa [List.map_map] at renamed

theorem productSubjects_nodup
    (distinct : (product.variants.map fun variant => variant.fields.sku).Nodup) :
    (productSubjects product).Nodup := by
  have own : (product.variants.flatMap fun variant => ownSubjects variant.fields.sku).Nodup := by
    rw [List.nodup_flatMap]
    constructor
    · intro variant _
      apply List.Nodup.map fun _ _ same => (Subject.variant.inj same).2
      decide
    · refine (List.pairwise_map.mp distinct).imp ?_
      intro first second differs subject firstMem secondMem
      rcases List.mem_map.mp firstMem with ⟨_, _, rfl⟩
      rcases List.mem_map.mp secondMem with ⟨_, _, same⟩
      exact differs (Subject.variant.inj same).1.symm
  have every : ([VariantSubject.feature "wattage", .feature "ports", .compatibility "usb-c-pd",
      .compatibility "usb-c"].flatMap (everyVariant product)).Nodup := by
    rw [List.nodup_flatMap]
    refine ⟨fun field _ => everyVariant_nodup distinct field, ?_⟩
    have fields : [VariantSubject.feature "wattage", .feature "ports",
        .compatibility "usb-c-pd", .compatibility "usb-c"].Nodup := by decide
    refine fields.imp ?_
    intro first second differs subject firstMem secondMem
    rcases List.mem_map.mp firstMem with ⟨_, _, rfl⟩
    rcases List.mem_map.mp secondMem with ⟨_, _, same⟩
    exact differs (Subject.variant.inj same).2.symm
  rw [productSubjects, List.nodup_append, List.nodup_append]
  refine ⟨⟨by simp, own, ?_⟩, every, ?_⟩
  · rintro first ofProduct _ ofVariant rfl
    rcases List.mem_flatMap.mp ofVariant with ⟨_, _, isOwn⟩
    rcases List.mem_map.mp isOwn with ⟨_, _, rfl⟩
    simp at ofProduct
  · rintro first former _ isEvery rfl
    rcases List.mem_flatMap.mp isEvery with ⟨field, fieldMem, isField⟩
    rcases List.mem_map.mp isField with ⟨_, _, rfl⟩
    rcases List.mem_append.mp former with ofProduct | ofVariant
    · simp at ofProduct
    · rcases List.mem_flatMap.mp ofVariant with ⟨_, _, isOwn⟩
      rcases List.mem_map.mp isOwn with ⟨other, otherMem, same⟩
      rw [(Subject.variant.inj same).2] at otherMem
      revert fieldMem otherMem
      simp only [List.mem_cons, List.not_mem_nil, or_false]
      rintro (rfl | rfl | rfl | rfl) <;> simp

theorem forVariants_subjects {reading : String → Reading} {field : VariantSubject}
    (isAbout : ∀ sku, (reading sku).subject = .variant sku field) :
    (forVariants product reading).map Reading.subject = everyVariant product field := by
  rw [forVariants, List.map_map]
  exact List.map_congr_left fun variant _ => isAbout variant.fields.sku

variable [CharacterTables]

theorem variantReadings_subjects (externalId : String) (variant : SourceVariant) :
    ((variantReadings externalId variant).map Reading.subject).Sublist
      (ownSubjects variant.sku) := by
  have color : ((colorReading externalId variant).toList.map Reading.subject).Sublist
      [Subject.variant variant.sku (.feature "color")] := by
    unfold colorReading
    split
    · split
      · exact List.nil_sublist _
      · exact List.Sublist.refl _
    · exact List.nil_sublist _
  have length : ((lengthReading externalId variant).toList.map Reading.subject).Sublist
      [Subject.variant variant.sku (.feature "length")] := by
    unfold lengthReading
    cases variant.label with
    | none => exact List.nil_sublist _
    | some label =>
        rw [Option.bind_some]
        cases fullMatch lengthPattern label with
        | none => exact List.nil_sublist _
        | some found => exact List.Sublist.refl _
  simp only [variantReadings, List.cons_append, List.map_cons, List.map_append]
  exact ((color.append length).cons_cons _).cons_cons _

theorem semanticReadings_subjects :
    ((semanticReadings product).map Reading.subject).Sublist
      ([VariantSubject.feature "wattage", .feature "ports", .compatibility "usb-c-pd",
        .compatibility "usb-c"].flatMap (everyVariant product)) := by
  have wattage : ((wattageReadings product).map Reading.subject).Sublist
      (everyVariant product (.feature "wattage")) := by
    unfold wattageReadings
    split
    · exact List.nil_sublist _
    · split <;> rw [forVariants_subjects fun _ => rfl]
  have ports : ((portReadings product).map Reading.subject).Sublist
      (everyVariant product (.feature "ports")) := by
    unfold portReadings
    split
    · exact List.nil_sublist _
    · rw [forVariants_subjects fun _ => rfl]
  have connector : ((connectorReadings product).map Reading.subject).Sublist
      (everyVariant product (.compatibility "usb-c-pd") ++
        everyVariant product (.compatibility "usb-c")) := by
    unfold connectorReadings
    split
    · split
      · exact List.nil_sublist _
      · rw [forVariants_subjects fun _ => rfl]
        exact List.sublist_append_left _ _
    · split
      · split
        · exact List.nil_sublist _
        · rw [forVariants_subjects fun _ => rfl]
          exact List.sublist_append_right _ _
      · exact List.nil_sublist _
  unfold semanticReadings
  split
  · exact List.nil_sublist _
  · simp only [List.map_append, List.flatMap_cons, List.flatMap_nil, List.append_nil]
    rw [← List.append_assoc]
    exact (wattage.append ports).append connector

theorem productReadings_subjects :
    ((productReadings product).map Reading.subject).Sublist (productSubjects product) := by
  have category : ((categoryReading product).toList.map Reading.subject).Sublist
      [Subject.product product.externalId .category] := by
    unfold categoryReading
    cases product.category with
    | none => exact List.nil_sublist _
    | some category => exact List.Sublist.refl _
  have own : ((product.variants.flatMap fun variant =>
      variantReadings product.externalId variant.fields).map Reading.subject).Sublist
      (product.variants.flatMap fun variant => ownSubjects variant.fields.sku) := by
    rw [List.map_flatMap]
    induction product.variants with
    | nil => exact List.Sublist.refl _
    | cons variant rest ih =>
        simp only [List.flatMap_cons]
        exact (variantReadings_subjects _ _).append ih
  simp only [productReadings, productSubjects, List.cons_append, List.map_cons, List.map_append,
    List.nil_append]
  exact (((category.append own).append semanticReadings_subjects)).cons_cons _

/-- No two readings are about one subject. -/
theorem readings_subjects_nodup (sound : SourceSound source) :
    ((readings source).map Reading.subject).Nodup := by
  rw [readings, List.map_append, List.nodup_append, List.map_flatMap, List.nodup_flatMap]
  refine ⟨⟨?_, ?_⟩, ?_, ?_⟩
  · intro product member
    exact productReadings_subjects.nodup (productSubjects_nodup (skus_nodup_of_mem sound member))
  · have differentIds := List.pairwise_map.mp sound.externalIds
    have skus := sound.skus
    rw [MerchantSourceDefinition.skus, MerchantSourceDefinition.variants, List.map_flatMap,
      List.nodup_flatMap] at skus
    refine (differentIds.and skus.2).imp ?_
    rintro first second ⟨otherId, otherSkus⟩ subject firstMem secondMem
    rcases List.mem_map.mp firstMem with ⟨one, oneMem, rfl⟩
    rcases List.mem_map.mp secondMem with ⟨other, otherMem, same⟩
    rcases (productReadings_ofProduct oneMem).about with
      ⟨field, isOne⟩ | ⟨variant, variantMem, field, isOne⟩
    · rcases (productReadings_ofProduct otherMem).about with
        ⟨otherField, isOther⟩ | ⟨otherVariant, _, otherField, isOther⟩
      · rw [isOne, isOther] at same
        exact otherId (Subject.product.inj same).1.symm
      · rw [isOne, isOther] at same
        cases same
    · rcases (productReadings_ofProduct otherMem).about with
        ⟨otherField, isOther⟩ | ⟨otherVariant, otherVariantMem, otherField, isOther⟩
      · rw [isOne, isOther] at same
        cases same
      · rw [isOne, isOther] at same
        have sameSku := (Subject.variant.inj same).1
        refine otherSkus (List.mem_map_of_mem variantMem) ?_
        rw [← sameSku]
        exact List.mem_map_of_mem otherVariantMem
  · unfold warrantyReadings
    split
    · exact List.nodup_nil
    · split
      · exact List.nodup_nil
      · split
        · exact List.nodup_nil
        · exact List.nodup_singleton _
  · rintro _ ofProduct _ ofPolicy rfl
    rcases List.mem_flatMap.mp ofProduct with ⟨product, _, inProduct⟩
    rcases List.mem_map.mp inProduct with ⟨reading, readingMem, rfl⟩
    rcases List.mem_map.mp ofPolicy with ⟨policy, policyMem, same⟩
    rw [(warrantyReadings_sound policyMem).2] at same
    rcases (productReadings_ofProduct readingMem).about with
      ⟨field, isAbout⟩ | ⟨_, _, field, isAbout⟩ <;>
    · rw [isAbout] at same
      cases same

end Subjects

/-! ## The proposals of readings -/

/-- A proposal says what a reading says. -/
structure Reading.Proposed (reading : Reading) (proposal : CandidateProposal) : Prop where
  target : proposal.target = reading.subject.target
  value : proposal.fact.fields.value = reading.value
  authority : proposal.fact.fields.authority = reading.basis.authority
  confidence : proposal.fact.fields.confidence = reading.basis.confidence
  reviewState : proposal.fact.fields.reviewState = reading.basis.reviewState
  provenance : proposal.fact.fields.provenance.map Made.fields =
    [{ field := reading.field.text, excerpt := reading.basis.excerpt }]
  attributeKind : proposal.attributeKind = reading.attributeKind
  unit : proposal.unit = reading.unit
  requiresCorrection : proposal.requiresCorrection = reading.requiresCorrection

section Proposals

variable {reading : Reading}

theorem proposed_of_propose {proposal : Made CandidateProposal} {state : CandidateState}
    (isOk : reading.propose = .ok (proposal, state)) :
    reading.Proposed proposal.fields ∧ state = reading.basis.state := by
  obtain ⟨fact, factOk, isOk⟩ := except_bind_eq_ok_iff.mp isOk
  obtain ⟨made, madeOk, same⟩ := except_bind_eq_ok_iff.mp isOk
  cases same
  obtain ⟨reference, referenceOk, factOk⟩ := except_bind_eq_ok_iff.mp factOk
  have isReference := fields_of_make referenceOk
  have isFact := fields_of_make factOk
  have isProposal := fields_of_make madeOk
  refine ⟨?_, rfl⟩
  rw [isProposal]
  constructor <;> simp [isFact, isReference]

theorem SourceReference.refusal_eq_none {reference : SourceReference}
    (field : isBlank reference.field = false)
    (excerpt : ∀ excerpt, reference.excerpt = some excerpt → isBlank excerpt = false) :
    Dataclass.refusal reference = none := by
  cases isExcerpt : reference.excerpt with
  | none => simp [Dataclass.refusal, field, isExcerpt]
  | some text => simp [Dataclass.refusal, field, isExcerpt, excerpt text isExcerpt]

/-- An address is not blank. -/
theorem FieldAddress.isBlank_text (address : FieldAddress) : isBlank address.text = false := by
  cases address with
  | product externalId field =>
      have first : 'p' ∈ (FieldAddress.product externalId field).text.toList := by
        simp [FieldAddress.text]
      exact isBlank_of_visible first (by decide)
  | policy name =>
      have first : 'p' ∈ (FieldAddress.policy name).text.toList := by
        simp [FieldAddress.text]
      exact isBlank_of_visible first (by decide)

theorem Subject.isBlank_target (subject : Subject) : isBlank subject.target = false := by
  cases subject with
  | product externalId field =>
      have first : 'p' ∈ (Subject.product externalId field).target.toList := by
        rw [Subject.target_product]
        simp
      exact isBlank_of_visible first (by decide)
  | variant sku field =>
      have first : 'v' ∈ (Subject.variant sku field).target.toList := by
        rw [Subject.target_variant]
        simp
      exact isBlank_of_visible first (by decide)
  | policy name =>
      have first : 'p' ∈ (Subject.policy name).target.toList := by
        simp [Subject.target, policyTarget, policyPrefix]
      exact isBlank_of_visible first (by decide)

/-- The proposal of a sound reading is made. -/
theorem propose_of_sound (sound : reading.Sound source) :
    ∃ proposal, reading.propose = .ok (proposal, reading.basis.state) := by
  obtain ⟨text, _, cites⟩ := sound.cited
  have referenceSound : Dataclass.refusal
      ({ field := reading.field.text, excerpt := reading.basis.excerpt } : SourceReference) =
        none :=
    SourceReference.refusal_eq_none (FieldAddress.isBlank_text _) cites.visible
  have factSound : ∀ reference : Made SourceReference, Dataclass.refusal
      ({ value := reading.value
         authority := reading.basis.authority
         confidence := reading.basis.confidence
         reviewState := reading.basis.reviewState
         provenance := [reference] } : SemanticFact) = none := by
    intro reference
    cases reading.basis <;>
      simp [Dataclass.refusal, Basis.authority, Basis.confidence, Basis.reviewState]
  have proposalSound : ∀ fact : Made SemanticFact, Dataclass.refusal
      ({ target := reading.subject.target
         fact := fact
         attributeKind := reading.attributeKind
         unit := reading.unit
         requiresCorrection := reading.requiresCorrection } : CandidateProposal) = none := by
    intro fact
    by_cases isMeasurement : reading.attributeKind = some .measurement
    · obtain ⟨unit, isUnit, visible⟩ := sound.typed.measured isMeasurement
      have notEmpty : unit ≠ "" := by
        rintro rfl
        exact absurd visible (by decide)
      simp [Dataclass.refusal, Subject.isBlank_target, isMeasurement, isUnit, notEmpty]
    · have noUnit := sound.typed.unmeasured isMeasurement
      simp [Dataclass.refusal, Subject.isBlank_target, isMeasurement, noUnit]
  simp only [Reading.propose, Reading.fact, make_of_sound referenceSound,
    make_of_sound (factSound _), make_of_sound (proposalSound _)]
  exact ⟨_, rfl⟩

end Proposals

end AgentRank.Compiler
