import AgentRank.Compiler.Readings
import AgentRank.Representation.Fixtures

/-!
# Whether a source document compiles

This module models the run of `compiler/service.py` over one stored document, and finds what
can fail it.  A document that the intake accepted is read back as it was, and every field it
declares resolves.  What is left is the length of an excerpt: the forms that the compiler reads
in prose are bounded but for two, and these can take more text than an excerpt may hold.
-/

namespace AgentRank.Compiler

open Constraints Relational Representation Store Text

/-- The states of a run that an outcome is recorded with. -/
inductive CompilerRunStatus
  | completed
  | failed
deriving DecidableEq

/-- The column that holds a target. -/
def maxTargetLength : Nat := 256

section Compile

variable [CharacterTables] [ContentDigest]

/-- The candidates that a stored document gives, or the first thing that was refused. -/
def compileCandidates (payload : Document) (contentHash : ContentHash) :
    Except ValueError (List (Made CandidateProposal × CandidateState)) := do
  let definition ← parseSource payload
  if definition.fields.contentHash ≠ contentHash then
    throw { message := "persisted source content hash does not match its payload" }
  let candidates ← extract definition.fields
  validateCandidates definition.fields candidates
  return candidates

/-- `_compile`. -/
def compile (payload : Document) (contentHash : ContentHash) :
    CompilerRunStatus × List (Made CandidateProposal × CandidateState) :=
  match compileCandidates payload contentHash with
  | .error _ => (.failed, [])
  | .ok candidates => (.completed, candidates)

end Compile

section Candidates

variable {source : MerchantSourceDefinition}

/-- A reference names a field of the document, and an excerpt of it that fits. -/
def Supported (source : MerchantSourceDefinition) (reference : SourceReference) : Prop :=
  ∃ text, (sourceFields source).get? reference.field = some text ∧
    ∀ excerpt, reference.excerpt = some excerpt →
      excerpt.length ≤ maxExcerptLength ∧ excerpt.toList <:+: text.toList

/-- The state of a candidate agrees with the review that its fact asks for. -/
def StateAgrees (state : CandidateState) (reviewState : ReviewState) : Prop :=
  (state = .reviewRequired → reviewState = .reviewRequired) ∧
    (state = .accepted → reviewState ≠ .reviewRequired)

theorem validateCandidate_eq_ok_iff {candidate : Made CandidateProposal × CandidateState} :
    validateCandidate source candidate = .ok () ↔
      StateAgrees candidate.2 candidate.1.fields.fact.fields.reviewState ∧
        ∀ reference ∈ candidate.1.fields.fact.fields.provenance,
          Supported source reference.fields := by
  unfold validateCandidate StateAgrees
  dsimp only
  split
  · next refused => simp [refused.1, refused.2]
  · next retained =>
      split
      · next refused => simp [refused.1, refused.2]
      · next settled =>
          have agrees : StateAgrees candidate.2 candidate.1.fields.fact.fields.reviewState :=
            ⟨fun isReview => not_not.mp fun other => retained ⟨isReview, other⟩,
              fun isAccepted other => settled ⟨isAccepted, other⟩⟩
          rw [forM_eq_ok_iff]
          refine Iff.trans ?_ (and_iff_right agrees).symm
          refine forall₂_congr fun reference _ => ?_
          unfold Supported
          cases (sourceFields source).get? reference.fields.field with
          | none => simp
          | some text =>
              cases reference.fields.excerpt with
              | none => simp
              | some excerpt =>
                  by_cases fits : excerpt.length ≤ maxExcerptLength <;>
                    by_cases within : excerpt.toList <:+: text.toList <;> simp [fits, within]

variable {reading : Reading}

/-- What a reading cites fits an excerpt. -/
def Reading.Fits (reading : Reading) : Prop :=
  ∀ excerpt, reading.basis.excerpt = some excerpt → excerpt.length ≤ maxExcerptLength

/-- The candidate of a sound reading is refused for its excerpt alone. -/
theorem validateCandidate_iff_fits (soundSource : SourceSound source)
    (plain : PlainIdentifiers source) (sound : reading.Sound source)
    {candidate : Made CandidateProposal × CandidateState}
    (proposed : reading.propose = .ok candidate) :
    validateCandidate source candidate = .ok () ↔ reading.Fits := by
  obtain ⟨proposal, state⟩ := candidate
  obtain ⟨stated, rfl⟩ := proposed_of_propose proposed
  obtain ⟨text, declared, cites⟩ := sound.cited
  have resolves := sourceFields_resolves soundSource plain declared
  have agrees : StateAgrees reading.basis.state proposal.fields.fact.fields.reviewState := by
    rw [stated.reviewState]
    cases reading.basis <;> simp [StateAgrees, Basis.state, Basis.reviewState]
  have references : (∀ reference ∈ proposal.fields.fact.fields.provenance,
      Supported source reference.fields) ↔
      ∀ reference ∈ proposal.fields.fact.fields.provenance.map Made.fields,
        Supported source reference := List.forall_mem_map.symm
  rw [validateCandidate_eq_ok_iff, and_iff_right agrees, references, stated.provenance,
    List.forall_mem_singleton]
  constructor
  · rintro ⟨_, _, fits⟩ excerpt isExcerpt
    exact (fits excerpt isExcerpt).1
  · intro fits
    exact ⟨text, resolves, fun excerpt isExcerpt =>
      ⟨fits excerpt isExcerpt, cites.within excerpt isExcerpt⟩⟩

end Candidates

variable {candidates : List (Made CandidateProposal × CandidateState)}

section Document

variable [CharacterTables] {source : MerchantSourceDefinition}

/-- Every reading of a document becomes a candidate. -/
theorem exists_extract (source : MerchantSourceDefinition) :
    ∃ candidates, extract source = .ok candidates := by
  refine exists_mapM_eq_ok_iff.mpr fun reading member => ?_
  obtain ⟨proposal, isOk⟩ := propose_of_sound (readings_sound member)
  exact ⟨_, isOk⟩

theorem validateCandidates_iff_fit (soundSource : SourceSound source)
    (plain : PlainIdentifiers source) (extracted : extract source = .ok candidates) :
    validateCandidates source candidates = .ok () ↔ ∀ reading ∈ readings source, reading.Fits := by
  have related := mapM_eq_ok_iff.mp extracted
  rw [validateCandidates, forM_eq_ok_iff]
  constructor
  · intro valid reading member
    obtain ⟨candidate, candidateMem, proposed⟩ := exists_right_of_forall₂ related member
    exact (validateCandidate_iff_fits soundSource plain (readings_sound member) proposed).mp
      (valid candidate candidateMem)
  · intro fit candidate member
    obtain ⟨reading, readingMem, proposed⟩ := exists_left_of_forall₂ related member
    exact (validateCandidate_iff_fits soundSource plain (readings_sound readingMem) proposed).mpr
      (fit reading readingMem)

/-- The targets of what was extracted are those of the readings. -/
theorem targets_of_extract (extracted : extract source = .ok candidates) :
    candidates.map (fun candidate => candidate.1.fields.target) =
      (readings source).map fun reading => reading.subject.target := by
  have related := mapM_eq_ok_iff.mp extracted
  symm
  rw [← List.forall₂_eq_eq_eq, List.forall₂_map_left_iff, List.forall₂_map_right_iff]
  refine related.imp fun reading candidate proposed => ?_
  exact (proposed_of_propose proposed).1.target.symm

/-- No two candidates of a document have one target. -/
theorem targets_nodup (sound : SourceSound source) (plain : PlainIdentifiers source)
    (extracted : extract source = .ok candidates) :
    (candidates.map fun candidate => candidate.1.fields.target).Nodup := by
  rw [targets_of_extract extracted]
  have subjects := List.pairwise_map.mp (readings_subjects_nodup sound)
  refine List.pairwise_map.mpr (subjects.imp_of_mem ?_)
  intro first second firstMem secondMem differs same
  exact differs (Subject.target_injective ((readings_sound firstMem).subject.plain plain)
    ((readings_sound secondMem).subject.plain plain) same)

end Document

/-! ## Which excerpts fit -/

variable {reading : Reading}

section Fit

theorem fits_of_authoritative (copied : reading.basis = .authoritative) :
    reading.Fits := by
  intro excerpt isExcerpt
  rw [copied] at isExcerpt
  cases isExcerpt

theorem fits_iff_of_found {found : List Char}
    (isExcerpt : reading.basis.excerpt = some (String.ofList found)) :
    reading.Fits ↔ found.length ≤ maxExcerptLength := by
  constructor
  · intro fits
    have bound := fits _ isExcerpt
    rwa [String.length_ofList] at bound
  · intro bound excerpt isOther
    cases isExcerpt.symm.trans isOther
    rwa [String.length_ofList]

/-- What is read in a text of bounded length fits. -/
theorem fits_of_within {found : List Char} {text : String}
    (isExcerpt : reading.basis.excerpt = some (String.ofList found))
    (within : found <:+: text.toList) (bound : text.length ≤ maxExcerptLength) :
    reading.Fits := by
  refine (fits_iff_of_found isExcerpt).mpr (within.length_le.trans ?_)
  rwa [String.length_toList]

variable {product : SourceProduct}

/-- A reading that is repeated for every variant fits as one does. -/
theorem forVariants_fit_iff (variants : product.variants ≠ []) {reading : String → Reading}
    {found : List Char}
    (isExcerpt : ∀ sku, (reading sku).basis.excerpt = some (String.ofList found)) :
    (∀ one ∈ forVariants product reading, one.Fits) ↔ found.length ≤ maxExcerptLength := by
  constructor
  · intro fit
    obtain ⟨variant, member⟩ := List.exists_mem_of_ne_nil _ variants
    exact (fits_iff_of_found (isExcerpt _)).mp (fit _ (List.mem_map_of_mem member))
  · intro bound one member
    rcases List.mem_map.mp member with ⟨variant, _, rfl⟩
    exact (fits_iff_of_found (isExcerpt _)).mpr bound

variable [CharacterTables]

/-- The wattage that a product is read by. -/
def wattageStatement (product : SourceProduct) : Option Match :=
  (wattages product).head?.map Prod.snd

/-- The number of ports that a product is read by. -/
def portStatement (product : SourceProduct) : Option Match :=
  product.description.bind (search portsPattern)

theorem portStatement_of_description {text : String} (described : product.description = some text) :
    portStatement product = search portsPattern text := by
  rw [portStatement, described, Option.bind_some]

/-- The statements that can be longer than an excerpt are not, where a product is read. -/
def ExcerptsFit (source : MerchantSourceDefinition) : Prop :=
  ∀ product ∈ source.products, isUnread product.fields = false →
    ∀ found, wattageStatement product.fields = some found ∨
      portStatement product.fields = some found → found.text.length ≤ maxExcerptLength

theorem wattageReadings_fit_iff (variants : product.variants ≠ []) :
    (∀ reading ∈ wattageReadings product, reading.Fits) ↔
      ∀ found, wattageStatement product = some found → found.text.length ≤ maxExcerptLength := by
  unfold wattageReadings wattageStatement
  split
  · next none => simp [none]
  · next field found others isFirst =>
      simp only [isFirst, List.head?_cons, Option.map_some, Option.some.injEq, forall_eq']
      split
      · exact forVariants_fit_iff variants fun _ => rfl
      · exact forVariants_fit_iff variants fun _ => rfl

theorem portReadings_fit_iff (variants : product.variants ≠ []) :
    (∀ reading ∈ portReadings product, reading.Fits) ↔
      ∀ found, portStatement product = some found → found.text.length ≤ maxExcerptLength := by
  unfold portReadings portStatement
  split
  · next none => simp [none]
  · next found isFound =>
      simp only [isFound, Option.some.injEq, forall_eq']
      exact forVariants_fit_iff variants fun _ => rfl

theorem connectorReadings_fit (variants : product.variants ≠ [])
    (title : product.title.length ≤ maxExcerptLength)
    (member : reading ∈ connectorReadings product) : reading.Fits := by
  unfold connectorReadings at member
  split at member
  · split at member
    · cases member
    · next found isFound =>
        have bound := (search_length_le rfl isFound).trans (by decide : 6 ≤ maxExcerptLength)
        exact (forVariants_fit_iff variants fun _ => rfl).mpr bound reading member
  · split at member
    · split at member
      · cases member
      · next found isFound =>
          have bound := (search_within isFound).length_le
          rw [String.length_toList] at bound
          exact (forVariants_fit_iff variants fun _ => rfl).mpr (bound.trans title) reading member
    · cases member

theorem semanticReadings_fit_iff (variants : product.variants ≠ [])
    (title : product.title.length ≤ maxExcerptLength) :
    (∀ reading ∈ semanticReadings product, reading.Fits) ↔
      (isUnread product = false → ∀ found, wattageStatement product = some found ∨
        portStatement product = some found → found.text.length ≤ maxExcerptLength) := by
  unfold semanticReadings
  cases isUnread product with
  | true => simp
  | false =>
      have connectors : ∀ reading ∈ connectorReadings product, reading.Fits :=
        fun reading member => connectorReadings_fit variants title member
      simp only [Bool.false_eq_true, if_false, List.forall_mem_append, forall_const, or_imp,
        forall_and, wattageReadings_fit_iff variants, portReadings_fit_iff variants]
      exact and_iff_left connectors

theorem variantReadings_fit {externalId : String} {variant : SourceVariant}
    (label : ∀ label, variant.label = some label → label.length ≤ maxExcerptLength)
    (member : reading ∈ variantReadings externalId variant) :
    reading.Fits := by
  simp only [variantReadings, List.cons_append, List.mem_cons, List.mem_append,
    Option.mem_toList] at member
  rcases member with rfl | rfl | isColor | isLength
  · exact fits_of_authoritative rfl
  · exact fits_of_authoritative rfl
  · unfold colorReading at isColor
    split at isColor
    · split at isColor
      · cases isColor
      · cases isColor
        exact fits_of_authoritative rfl
    · cases isColor
  · obtain ⟨text, isLabel, isReading⟩ := Option.bind_eq_some_iff.mp isLength
    obtain ⟨found, isFound, rfl⟩ := Option.map_eq_some_iff.mp isReading
    refine fits_of_within rfl ?_ (label text isLabel)
    rw [fullMatch_text isFound]
    exact stripChars_within _

theorem warrantyReadings_fit {source : MerchantSourceDefinition}
    (member : reading ∈ warrantyReadings source) : reading.Fits := by
  unfold warrantyReadings at member
  split at member
  · cases member
  · split at member
    · cases member
    · next found isFound =>
        split at member
        · cases member
        · cases List.mem_singleton.mp member
          have bound := (search_length_le rfl isFound).trans (by decide : 8 ≤ maxExcerptLength)
          exact (fits_iff_of_found rfl).mpr bound

/-- What the intake accepted, as the compiler relies on it. -/
structure ShortTexts (product : SourceProduct) : Prop where
  variants : product.variants ≠ []
  title : product.title.length ≤ maxExcerptLength
  labels : ∀ variant ∈ product.variants, ∀ label, variant.fields.label = some label →
    label.length ≤ maxExcerptLength

theorem productReadings_fit_iff (short : ShortTexts product) :
    (∀ reading ∈ productReadings product, reading.Fits) ↔
      (isUnread product = false → ∀ found, wattageStatement product = some found ∨
        portStatement product = some found → found.text.length ≤ maxExcerptLength) := by
  have title : (titleReading product).Fits := fits_of_authoritative rfl
  have category : ∀ reading ∈ (categoryReading product).toList, reading.Fits := by
    intro reading member
    obtain ⟨_, _, rfl⟩ := Option.map_eq_some_iff.mp (Option.mem_toList.mp member)
    exact fits_of_authoritative rfl
  have own : ∀ reading ∈ product.variants.flatMap fun variant =>
      variantReadings product.externalId variant.fields, reading.Fits := by
    intro reading member
    obtain ⟨variant, variantMem, isOwn⟩ := List.mem_flatMap.mp member
    exact variantReadings_fit (short.labels variant variantMem) isOwn
  simp only [productReadings, List.cons_append, List.forall_mem_cons, List.forall_mem_append]
  rw [and_iff_right title, and_iff_right ⟨category, own⟩]
  exact semanticReadings_fit_iff short.variants short.title

theorem readings_fit_iff {source : MerchantSourceDefinition}
    (short : ∀ product ∈ source.products, ShortTexts product.fields) :
    (∀ reading ∈ readings source, reading.Fits) ↔ ExcerptsFit source := by
  rw [readings, List.forall_mem_append, and_iff_left fun reading => warrantyReadings_fit]
  simp only [List.forall_mem_flatMap]
  exact forall₂_congr fun product member => productReadings_fit_iff (short product member)

end Fit

theorem Subject.length_product (externalId : String) (field : ProductSubject) :
    (Subject.product externalId field).target.length =
      9 + externalId.length + field.text.length := by
  have opening : "product.".length = 8 := by decide
  have dot : ".".length = 1 := by decide
  rw [Subject.target_product, String.length_append, String.length_append, String.length_append,
    opening, dot]
  omega

theorem Subject.length_variant (sku : String) (field : VariantSubject) :
    (Subject.variant sku field).target.length = 9 + sku.length + field.text.length := by
  have opening : "variant.".length = 8 := by decide
  have dot : ".".length = 1 := by decide
  rw [Subject.target_variant, String.length_append, String.length_append, String.length_append,
    opening, dot]
  omega

theorem length_le_of_isIdentifier {text : String} (isId : isIdentifier text = true) :
    text.length ≤ 64 := by
  unfold isIdentifier at isId
  split at isId
  · cases isId
  · next first rest isText =>
      simp only [Bool.and_eq_true, decide_eq_true_eq] at isId
      rw [← String.length_toList, isText, List.length_cons]
      exact Nat.succ_le_succ isId.1.2

/-- The target of everything a product can be read about fits its column. -/
theorem length_target_le {product : SourceProduct} (externalId : product.externalId.length ≤ 64)
    (skus : ∀ variant ∈ product.variants, variant.fields.sku.length ≤ 64) {subject : Subject}
    (member : subject ∈ productSubjects product) : subject.target.length ≤ maxTargetLength := by
  have fits : ∀ variant ∈ product.variants, ∀ field : VariantSubject, field.text.length ≤ 22 →
      (Subject.variant variant.fields.sku field).target.length ≤ maxTargetLength := by
    intro variant variantMem field fieldLe
    have skuLe := skus variant variantMem
    rw [Subject.length_variant, maxTargetLength]
    omega
  simp only [productSubjects, List.cons_append, List.nil_append, List.mem_cons, List.mem_append,
    List.mem_flatMap, ownSubjects, everyVariant, List.mem_map] at member
  rcases member with rfl | rfl | ⟨variant, variantMem, field, fieldMem, rfl⟩ |
    ⟨field, fieldMem, variant, variantMem, rfl⟩
  · have fieldLe : ProductSubject.title.text.length = 5 := by decide
    rw [Subject.length_product, fieldLe, maxTargetLength]
    omega
  · have fieldLe : ProductSubject.category.text.length = 8 := by decide
    rw [Subject.length_product, fieldLe, maxTargetLength]
    omega
  · refine fits variant variantMem field ?_
    rcases fieldMem with rfl | rfl | rfl | rfl | no
    all_goals first | decide | cases no
  · refine fits variant variantMem field ?_
    rcases fieldMem with rfl | rfl | rfl | rfl | no
    all_goals first | decide | cases no

/-! ## Documents that the intake accepted -/

section Accepted

variable [CharacterTables] {source : Made MerchantSourceDefinition}

theorem shortTexts_of_accepted (accepted : AcceptedSource source) :
    ∀ product ∈ source.fields.products, ShortTexts product.fields := by
  intro product member
  have isAccepted := accepted.products member
  have short : ∀ bound text, isPlainText bound text = true → bound ≤ maxExcerptLength →
      text.length ≤ maxExcerptLength := by
    intro bound text isPlain boundLe
    simp only [isPlainText, Bool.and_eq_true, decide_eq_true_eq] at isPlain
    exact isPlain.1.trans boundLe
  refine ⟨?_, short maxTitleLength _ isAccepted.title (by decide), ?_⟩
  · intro empty
    have sound := product.sound
    simp [Dataclass.refusal, empty] at sound
  · intro variant variantMem label isLabel
    have labels := (isAccepted.variants variant variantMem).label
    rw [isLabel, Option.all_some] at labels
    exact short maxLabelLength _ labels (by decide)

theorem targets_fit_of_accepted (accepted : AcceptedSource source)
    (member : reading ∈ readings source.fields) :
    reading.subject.target.length ≤ maxTargetLength := by
  rcases List.mem_append.mp member with ofProducts | ofPolicy
  · obtain ⟨product, productMem, ofProduct⟩ := List.mem_flatMap.mp ofProducts
    have isAccepted := accepted.products productMem
    refine length_target_le (length_le_of_isIdentifier isAccepted.externalId)
      (fun variant variantMem =>
        length_le_of_isIdentifier (isAccepted.variants variant variantMem).sku)
      (productReadings_subjects.subset (List.mem_map_of_mem ofProduct))
  · rw [(warrantyReadings_sound ofPolicy).2]
    decide

variable [ContentDigest] [FieldOrder]

/-- A stored document is read back, its addresses resolve and it compiles, into candidates that
can be stored. -/
structure Compiles (source : Made MerchantSourceDefinition) : Prop where
  readBack : ∃ definition, parseSource source.fields.payload.stored = .ok definition ∧
    definition.fields.contentHash = source.fields.contentHash
  resolves : ∀ address text, (address, text) ∈ declaredFields source.fields →
    (sourceFields source.fields).get? address.text = some text
  completes : (compile source.fields.payload.stored source.fields.contentHash).1 = .completed
  targets : ∀ candidate ∈ (compile source.fields.payload.stored source.fields.contentHash).2,
    candidate.1.fields.target.length ≤ maxTargetLength
  distinct : ((compile source.fields.payload.stored source.fields.contentHash).2.map
    fun candidate => candidate.1.fields.target).Nodup

/-- The compiler validates what it extracted from the document that was stored. -/
theorem compile_stored (extracted : extract source.fields = .ok candidates) :
    compile source.fields.payload.stored source.fields.contentHash =
      match validateCandidates source.fields candidates with
      | .ok () => (.completed, candidates)
      | .error _ => (.failed, []) := by
  have steps : compileCandidates source.fields.payload.stored source.fields.contentHash =
      validateCandidates source.fields candidates >>= fun _ => pure candidates := by
    unfold compileCandidates
    rw [parseSource_stored]
    refine (if_neg (not_not.mpr rfl)).trans ?_
    rw [extracted]
    rfl
  unfold compile
  rw [steps]
  cases validateCandidates source.fields candidates <;> rfl

/-- A run over an accepted document ends as the excerpts fit. -/
theorem compile_of_accepted (accepted : AcceptedSource source)
    (extracted : extract source.fields = .ok candidates) :
    (ExcerptsFit source.fields ∧
        compile source.fields.payload.stored source.fields.contentHash = (.completed, candidates)) ∨
      (¬ ExcerptsFit source.fields ∧
        compile source.fields.payload.stored source.fields.contentHash = (.failed, [])) := by
  have valid := validateCandidates_iff_fit (sourceSound_iff.mp source.sound) accepted.plain extracted
  rw [readings_fit_iff (shortTexts_of_accepted accepted)] at valid
  rw [compile_stored extracted, ← valid]
  cases validateCandidates source.fields candidates with
  | ok => exact Or.inl ⟨rfl, rfl⟩
  | error failure => exact Or.inr ⟨nofun, rfl⟩

theorem excerptsFit_of_compiles (accepted : AcceptedSource source) (compiles : Compiles source) :
    ExcerptsFit source.fields := by
  obtain ⟨candidates, extracted⟩ := exists_extract source.fields
  rcases compile_of_accepted accepted extracted with ⟨fit, _⟩ | ⟨_, failed⟩
  · exact fit
  · have completes := compiles.completes
    rw [failed] at completes
    cases completes

theorem compiles_of_excerptsFit (accepted : AcceptedSource source)
    (fit : ExcerptsFit source.fields) : Compiles source := by
  have soundSource := sourceSound_iff.mp source.sound
  obtain ⟨candidates, extracted⟩ := exists_extract source.fields
  rcases compile_of_accepted accepted extracted with ⟨_, compiled⟩ | ⟨notFit, _⟩
  · refine ⟨⟨source, parseSource_stored source, rfl⟩, fun address text declared =>
      sourceFields_resolves soundSource accepted.plain declared, ?_, ?_, ?_⟩
    · rw [compiled]
    · rw [compiled]
      intro candidate member
      obtain ⟨reading, readingMem, proposed⟩ := exists_of_mem_mapM extracted member
      rw [(proposed_of_propose proposed).1.target]
      exact targets_fit_of_accepted accepted readingMem
    · rw [compiled]
      exact targets_nodup soundSource accepted.plain extracted
  · exact absurd fit notFit

/-- A document that the intake accepted compiles exactly when what it states in prose fits an
excerpt. -/
theorem compiles_iff_excerptsFit (accepted : AcceptedSource source) :
    Compiles source ↔ ExcerptsFit source.fields :=
  ⟨excerptsFit_of_compiles accepted, compiles_of_excerptsFit accepted⟩

end Accepted

/-! ## A number of ports that fails the catalog -/

section Hub

local instance hubTables : CharacterTables := asciiTables

local instance hubDigest : ContentDigest where
  digest _ :=
    { text := "sha256:06fcdf6d48a255e2041debc98526ea150167131a041a2624fa12c5d00d971b5d"
      isLabelled := by decide +kernel
      length := by decide +kernel }

local instance hubOrder : FieldOrder where
  reorder := id
  perm := perm_id

def hubVariant : SourceVariantInput where
  sku := "HUB"
  label := none
  priceAmountMinor := 100
  currency := "INR"
  availability := none
  inventoryQuantity := some 1
  merchantMetadata := .empty

/-- A number of ports of four hundred and ninety six digits. -/
def hubCharacters : List Char :=
  List.replicate 496 '4' ++ " port".toList

def hubDescription : String :=
  String.ofList hubCharacters

def hubProduct : SourceProductInput where
  externalId := "hub"
  title := "Hub"
  description := some hubDescription
  category := none
  variants := [hubVariant]
  merchantMetadata := .empty

def hubDocument : SourceDocumentInput where
  products := [hubProduct]
  policyText := .empty

/-- A search in a text that is written as its characters. -/
theorem search_ofList (pattern : Pattern) (chars : List Char) :
    search pattern (String.ofList chars) = (findFrom pattern [] chars).map Found.found := by
  rw [search, String.toList_ofList]

theorem hubDescription_plain : isPlainText maxDescriptionLength hubDescription = true := by
  rw [hubDescription, isPlainText, String.length_ofList, instructionLike, search_ofList]
  decide +kernel

theorem hubProduct_isValid : hubProduct.isValid = true := by
  have variant : hubVariant.isValid = true := by decide +kernel
  have named : (isIdentifier "hub" && (1 ≤ "Hub".length && isPlainText maxTitleLength "Hub")) =
      true := by decide +kernel
  have listed : (Option.all (isPlainText maxCategoryLength) none &&
      (decide (1 ≤ [hubVariant].length) && decide ([hubVariant].length ≤ maxVariantsPerProduct))) =
      true := by decide +kernel
  have described : (isBoundedMetadata Mapping.empty) = true := by decide +kernel
  have text : (some hubDescription).all (isPlainText maxDescriptionLength) = true := by
    rw [Option.all_some]
    exact hubDescription_plain
  unfold SourceProductInput.isValid hubProduct
  simp only [Bool.and_eq_true] at named listed ⊢
  exact ⟨⟨⟨⟨⟨named, text⟩, listed.1⟩, listed.2⟩, List.all_eq_true.mpr fun one member =>
    List.mem_singleton.mp member ▸ variant⟩, described⟩

theorem hubDocument_isValid : hubDocument.isValid = true := by
  have products : hubDocument.products.all SourceProductInput.isValid = true :=
    List.all_eq_true.mpr fun product member => List.mem_singleton.mp member ▸ hubProduct_isValid
  have counted : (1 ≤ hubDocument.products.length && hubDocument.products.length ≤ maxProducts) =
      true := by decide
  unfold SourceDocumentInput.isValid
  rw [products, counted]
  decide

def hubVariantMade : Made SourceVariant where
  fields :=
    { sku := "HUB"
      label := none
      priceAmountMinor := 100
      currency := "INR"
      availability := .inStock
      inventoryQuantity := some 1
      merchantMetadata := .empty }
  sound := by decide +kernel

def hubProductMade : Made SourceProduct where
  fields :=
    { externalId := "hub"
      title := "Hub"
      description := some hubDescription
      category := none
      variants := [hubVariantMade]
      merchantMetadata := .empty }
  sound := by decide +kernel

def hubSource : Made MerchantSourceDefinition where
  fields :=
    { key := "catalog"
      version := 1
      merchantSlug := "shop"
      products := [hubProductMade]
      policyText := .empty }
  sound := by decide +kernel

theorem hubSource_accepted : AcceptedSource hubSource := by
  have variant : hubVariant.domain = .ok hubVariantMade :=
    except_bind_eq_ok_iff.mpr ⟨.inStock, rfl, make_made hubVariantMade⟩
  have product : hubProduct.domain = .ok hubProductMade :=
    except_bind_eq_ok_iff.mpr ⟨_, mapM_eq_ok_iff.mpr (.cons variant .nil), make_made hubProductMade⟩
  exact ⟨hubDocument, hubDocument_isValid, "catalog", 1, "shop",
    except_bind_eq_ok_iff.mpr ⟨_, mapM_eq_ok_iff.mpr (.cons product .nil), make_made hubSource⟩⟩

theorem hubProduct_isRead : isUnread hubProductMade.fields = false := by
  have title : instructionLike "Hub" = false := by decide +kernel
  have affirmed : (search negationPattern "Hub").isSome = false := by decide +kernel
  have description : instructionLike hubDescription = false := by
    rw [instructionLike, hubDescription, search_ofList]
    decide +kernel
  have descriptionAffirmed : (search negationPattern hubDescription).isSome = false := by
    rw [hubDescription, search_ofList]
    decide +kernel
  have texts : textFields hubProductMade.fields =
      [(.title, "Hub"), (.description, hubDescription)] := rfl
  unfold isUnread
  rw [texts]
  simp only [List.any_cons, List.any_nil, title, affirmed, description, descriptionAffirmed,
    Bool.or_false]

/-- All the digits are taken. -/
theorem ports_of_digits (count : Nat) :
    search portsPattern (String.ofList (List.replicate (count + 1) '4' ++ " port".toList)) =
      some
        { text := List.replicate (count + 1) '4' ++ " port".toList
          groups := [List.replicate (count + 1) '4'] } := by
  have isRun : longestRun isDecimal none (List.replicate (count + 1) '4' ++ " port".toList) =
      List.replicate (count + 1) '4' := by
    rw [longestRun, List.takeWhile_append_of_pos]
    · simp [List.takeWhile, isDecimal]
      decide
    · intro char member
      rw [List.eq_of_mem_replicate member]
      decide
  have boundary : (Pattern.boundary.ways []
      (List.replicate (count + 1) '4' ++ " port".toList)).head? = some { text := [] } := rfl
  have digits := @head?_ways_many _ [] (List.replicate (count + 1) '4' ++ " port".toList)
    isDecimal 1 none (by rw [isRun, List.length_replicate]; omega)
  rw [isRun] at digits
  have port : ((Pattern.sequence [.char isJoint, wordIgnoringCase "port", .boundary]).ways
      ((List.replicate (count + 1) '4').reverse ++ [])
      ((List.replicate (count + 1) '4' ++ " port".toList).drop
        (List.replicate (count + 1) '4').length)).head? = some { text := " port".toList } := by
    rw [List.drop_left]
    rfl
  apply search_eq_of_head?
  rw [String.toList_ofList]
  exact head?_ways_seq boundary (head?_ways_seq (head?_ways_group (head?_ways_alt digits)) port)

theorem hubProduct_ports :
    ∃ found, portStatement hubProductMade.fields = some found ∧ found.text.length = 501 := by
  refine ⟨{ text := hubCharacters, groups := [List.replicate 496 '4'] }, ?_, ?_⟩
  · rw [@portStatement_of_description hubProductMade.fields _ hubDescription rfl, hubDescription]
    exact ports_of_digits 495
  · rw [hubCharacters, List.length_append, List.length_replicate]
    decide

/-- The number of ports is more than an excerpt may hold. -/
theorem hubSource_not_fit : ¬ ExcerptsFit hubSource.fields := by
  intro fit
  obtain ⟨found, isStatement, length⟩ := hubProduct_ports
  have bound := fit hubProductMade List.mem_cons_self hubProduct_isRead found (Or.inr isStatement)
  rw [length] at bound
  exact absurd bound (by decide)

theorem compiles_iff_excerptsFit_hub :
    AcceptedSource hubSource ∧ (Compiles hubSource ↔ ExcerptsFit hubSource.fields) :=
  ⟨hubSource_accepted, compiles_iff_excerptsFit hubSource_accepted⟩

/-- One product fails the compilation of its catalog. -/
theorem hubSource_fails :
    AcceptedSource hubSource ∧ ¬ Compiles hubSource ∧
      compile hubSource.fields.payload.stored hubSource.fields.contentHash = (.failed, []) := by
  obtain ⟨candidates, extracted⟩ := exists_extract hubSource.fields
  refine ⟨hubSource_accepted, fun compiles =>
    hubSource_not_fit (excerptsFit_of_compiles hubSource_accepted compiles), ?_⟩
  rcases compile_of_accepted hubSource_accepted extracted with ⟨fit, _⟩ | ⟨_, failed⟩
  · exact absurd fit hubSource_not_fit
  · exact failed

end Hub

end AgentRank.Compiler
