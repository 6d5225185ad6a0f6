import AgentRank.Compiler.Faithful

/-!
# The publications of a store

Every run of a good store stands over an accepted document, with one candidate for each reading
of it when it completed.  Every review is sound, and a run that was published names the one
representation that its candidates and its reviews come to.  Whatever happens to a store keeps
it good, and leaves alone the candidates and the reviews of the runs it does not touch.
-/

namespace AgentRank.Compiler

open Constraints Relational Representation Store Text

variable {runId : Uuid}

section Frames

variable {store : CompilerStore} {run : CompilerRun}

theorem mem_candidatesOf_iff {candidate : CompilerCandidate} :
    candidate ∈ store.candidatesOf run ↔
      candidate ∈ store.candidates ∧ candidate.runId = run.id ∧
        candidate.merchantId = run.merchantId := by
  rw [CompilerStore.candidatesOf, List.mem_mergeSort, List.mem_filter]
  simp [Table.mem_def]

theorem candidatesOf_perm (store : CompilerStore) (run : CompilerRun) :
    (store.candidatesOf run).Perm (store.candidates.rows.filter fun candidate =>
      candidate.runId = run.id && candidate.merchantId = run.merchantId) :=
  List.mergeSort_perm _ _

/-- Candidates of other runs are not seen. -/
theorem candidatesOf_append {candidates : Table CompilerCandidate}
    {rows : List CompilerCandidate} (appended : candidates.rows = store.candidates.rows ++ rows)
    (others : ∀ row ∈ rows, row.runId ≠ run.id) :
    CompilerStore.candidatesOf { store with candidates := candidates } run =
      store.candidatesOf run := by
  have none : rows.filter (fun candidate =>
      decide (candidate.runId = run.id) && decide (candidate.merchantId = run.merchantId)) =
        [] := by
    rw [List.filter_eq_nil_iff]
    intro row member
    simp [others row member]
  simp only [CompilerStore.candidatesOf]
  rw [appended, List.filter_append, none, List.append_nil]

/-- Where a run has no candidates yet, it has those that are added for it. -/
theorem candidatesOf_append_perm {candidates : Table CompilerCandidate}
    {rows : List CompilerCandidate} (appended : candidates.rows = store.candidates.rows ++ rows)
    (fresh : ∀ candidate ∈ store.candidates, candidate.runId ≠ run.id)
    (ofRun : ∀ row ∈ rows, row.runId = run.id ∧ row.merchantId = run.merchantId) :
    (CompilerStore.candidatesOf { store with candidates := candidates } run).Perm rows := by
  refine (candidatesOf_perm _ run).trans ?_
  change (candidates.rows.filter _).Perm rows
  have none : store.candidates.rows.filter (fun candidate =>
      decide (candidate.runId = run.id) && decide (candidate.merchantId = run.merchantId)) =
        [] := by
    rw [List.filter_eq_nil_iff]
    intro candidate member
    simp [fresh candidate member]
  have every : rows.filter (fun candidate =>
      decide (candidate.runId = run.id) && decide (candidate.merchantId = run.merchantId)) =
        rows := by
    rw [List.filter_eq_self]
    intro row member
    simp [ofRun row member]
  rw [appended, List.filter_append, none, every, List.nil_append]

theorem reviewOf_eq_some {candidateId : Uuid} {review : CompilerReview}
    (found : store.reviewOf runId candidateId = some review) :
    review ∈ store.reviews ∧ review.runId = runId ∧ review.candidateId = candidateId := by
  have holds := List.find?_some found
  simp only [Bool.and_eq_true, decide_eq_true_eq] at holds
  exact ⟨List.mem_of_find?_eq_some found, holds⟩

/-- A review of another run is not seen. -/
theorem reviewOf_append {reviews : Table CompilerReview} {row : CompilerReview}
    (appended : reviews.rows = store.reviews.rows ++ [row]) (other : row.runId ≠ runId) :
    CompilerStore.reviewOf { store with reviews := reviews } runId = store.reviewOf runId := by
  funext candidateId
  simp only [CompilerStore.reviewOf]
  rw [appended, List.find?_append, List.find?_singleton, if_neg (by simp [other]), Option.or_none]

theorem unresolved_eq_nil_iff :
    store.unresolved run = [] ↔ ∀ candidate ∈ store.candidatesOf run,
      candidate.state = .reviewRequired → (store.reviewOf run.id candidate.id).isSome = true := by
  rw [CompilerStore.unresolved, List.filter_eq_nil_iff]
  simp [Option.isSome_iff_ne_none]

end Frames

/-! ## Good stores -/

/-- A run later on: at most it was published. -/
structure SameRun (run next : CompilerRun) : Prop where
  id : next.id = run.id
  merchant : next.merchantId = run.merchantId
  source : next.sourceSnapshotId = run.sourceSnapshotId
  digest : next.configurationDigest = run.configurationDigest
  status : next.status = run.status
  published : ∀ id, run.publishedRepresentationId = some id →
    next.publishedRepresentationId = some id

theorem SameRun.refl (run : CompilerRun) : SameRun run run :=
  ⟨rfl, rfl, rfl, rfl, rfl, fun _ isPublished => isPublished⟩

/-- What stays: nothing is deleted, and a run changes only by being published. -/
structure Grows (store result : CompilerStore) : Prop where
  sources : ∀ snapshot ∈ store.sources, snapshot ∈ result.sources
  runs : ∀ run ∈ store.runs, ∃ next ∈ result.runs, SameRun run next
  candidates : ∀ candidate ∈ store.candidates, candidate ∈ result.candidates
  reviews : ∀ review ∈ store.reviews, review ∈ result.reviews
  representations : ∀ representation ∈ store.representations,
    representation ∈ result.representations

theorem Grows.refl (store : CompilerStore) : Grows store store where
  sources _ member := member
  runs run member := ⟨run, member, .refl run⟩
  candidates _ member := member
  reviews _ member := member
  representations _ member := member

section Good

variable [CharacterTables] [ContentDigest] [FieldOrder]

/-- The snapshot that a run was made over, and the document that it holds. -/
structure SourceOf (sources : Table MerchantSourceSnapshot) (run : CompilerRun)
    (snapshot : MerchantSourceSnapshot) (source : Made MerchantSourceDefinition) : Prop where
  stored : snapshot ∈ sources
  isSource : snapshot.id = run.sourceSnapshotId
  merchant : snapshot.merchantId = run.merchantId
  accepted : AcceptedSource source
  holds : snapshot.Holds source

variable {source : Made MerchantSourceDefinition} {snapshot : MerchantSourceSnapshot}
  {run : CompilerRun} {sources : Table MerchantSourceSnapshot}

theorem SourceOf.parsed (sourceOf : SourceOf sources run snapshot source) :
    parseSource snapshot.payload = .ok source := by
  rw [sourceOf.holds.payload]
  exact parseSource_stored source

theorem SourceOf.unique {other : MerchantSourceSnapshot}
    {otherSource : Made MerchantSourceDefinition}
    (sourceOf : SourceOf sources run snapshot source)
    (isOther : SourceOf sources run other otherSource) :
    snapshot = other ∧ source = otherSource := by
  obtain rfl := Table.eq_of_key_eq sourceOf.stored isOther.stored
    (sourceOf.isSource.trans isOther.isSource.symm)
  refine ⟨rfl, ?_⟩
  have same := sourceOf.parsed.symm.trans isOther.parsed
  injection same

theorem SourceOf.later {others : Table MerchantSourceSnapshot} {next : CompilerRun}
    (sourceOf : SourceOf sources run snapshot source)
    (kept : ∀ snapshot ∈ sources, snapshot ∈ others) (same : SameRun run next) :
    SourceOf others next snapshot source where
  stored := kept _ sourceOf.stored
  isSource := sourceOf.isSource.trans same.source.symm
  merchant := sourceOf.merchant.trans same.merchant.symm
  accepted := sourceOf.accepted
  holds := sourceOf.holds

/-- A review of a candidate is sound over the source of its run. -/
def SoundReview (store : CompilerStore) (candidate : CompilerCandidate)
    (decision : ReviewDecision) (correction : Option (Made CandidateProposal)) : Prop :=
  ∃ run ∈ store.runs, run.id = candidate.runId ∧
    ∃ snapshot source, SourceOf store.sources run snapshot source ∧
      ReviewSound source.fields candidate decision correction

/-- What a run comes to, under the reviews of its candidates. -/
structure Assembles (store : CompilerStore) (run : CompilerRun)
    (snapshot : MerchantSourceSnapshot) (source : Made MerchantSourceDefinition)
    (definition : Made CommerceIRDefinition) : Prop where
  sourceOf : SourceOf store.sources run snapshot source
  resolved : store.unresolved run = []
  isOk : representationOf source.fields snapshot.contentHash run.configurationDigest
    (store.candidatesOf run) (store.reviewOf run.id) = .ok definition

/-- A run that was published as a representation. -/
structure PublishedAs (store : CompilerStore) (run : CompilerRun)
    (representation : CommerceRepresentation) : Prop where
  completed : run.status = .completed
  named : run.publishedRepresentationId = some representation.id
  merchant : representation.merchantId = run.merchantId
  snapshot : representation.sourceSnapshotId = run.sourceSnapshotId
  version : representation.producerVersion = run.configurationDigest.text
  assembles : ∃ snapshot source, Assembles store run snapshot source representation.definition

/-- A store in which reviews are sound and publications agree with them. -/
structure CompilerGood (store : CompilerStore) : Prop where
  sources : ∀ snapshot ∈ store.sources, ∃ source, AcceptedSource source ∧ snapshot.Holds source
  runs : ∀ run ∈ store.runs, ∃ snapshot source, SourceOf store.sources run snapshot source ∧
    (run.status = .completed → StandFor source.fields (store.candidatesOf run))
  distinct : ∀ run ∈ store.runs, ∀ other ∈ store.runs,
    run.sourceSnapshotId = other.sourceSnapshotId →
      run.configurationDigest = other.configurationDigest → run = other
  candidates : ∀ candidate ∈ store.candidates, ∃ run ∈ store.runs, run.id = candidate.runId ∧
    run.merchantId = candidate.merchantId
  reviews : ∀ review ∈ store.reviews, ∃ candidate ∈ store.candidates,
    candidate.id = review.candidateId ∧ candidate.runId = review.runId ∧
      SoundReview store candidate review.decision review.correction
  single : ∀ review ∈ store.reviews, ∀ other ∈ store.reviews,
    review.candidateId = other.candidateId → review = other
  fixtures : ∀ representation ∈ store.representations, representation.compilerRunId = none →
    representation.producer = .manualFixture
  published : ∀ representation ∈ store.representations, ∀ runId,
    representation.compilerRunId = some runId →
      ∃ run ∈ store.runs, run.id = runId ∧ PublishedAs store run representation
  named : ∀ run ∈ store.runs, ∀ id, run.publishedRepresentationId = some id →
    ∃ representation ∈ store.representations, representation.id = id ∧
      representation.compilerRunId = some run.id ∧ representation.merchantId = run.merchantId

theorem compilerGood_empty : CompilerGood .empty := by
  constructor <;> intro row member <;> cases member

namespace CompilerGood

variable {store : CompilerStore} (good : CompilerGood store)

include good

/-- The candidates and the reviews of a completed run, when every required one is present. -/
theorem resolved (member : run ∈ store.runs) (completed : run.status = .completed)
    (present : store.unresolved run = []) (sourceOf : SourceOf store.sources run snapshot source) :
    StandFor source.fields (store.candidatesOf run) ∧
      Resolved source.fields (store.candidatesOf run) (store.reviewOf run.id) := by
  obtain ⟨other, otherSource, isOther, standFor⟩ := good.runs run member
  obtain ⟨rfl, rfl⟩ := sourceOf.unique isOther
  refine ⟨standFor completed, ?_, unresolved_eq_nil_iff.mp present⟩
  intro candidate candidateMem given found
  obtain ⟨reviewMem, isRun, isCandidate⟩ := reviewOf_eq_some found
  obtain ⟨reviewed, reviewedMem, sameId, _, otherRun, otherRunMem, otherRunId, second,
    secondSource, isSecond, sound⟩ := good.reviews given reviewMem
  have stored := mem_candidatesOf_iff.mp candidateMem
  obtain rfl := Table.eq_of_key_eq reviewedMem stored.1 (sameId.trans isCandidate)
  obtain rfl := Table.eq_of_key_eq otherRunMem member (otherRunId.trans stored.2.1)
  obtain ⟨rfl, rfl⟩ := sourceOf.unique isSecond
  exact sound

/-- A run is published once. -/
theorem eq_of_compilerRunId {first second : CommerceRepresentation}
    (firstMem : first ∈ store.representations) (secondMem : second ∈ store.representations)
    (firstRun : first.compilerRunId = some runId) (secondRun : second.compilerRunId = some runId) :
    first = second := by
  obtain ⟨run, runMem, runAt, firstPublished⟩ := good.published first firstMem runId firstRun
  obtain ⟨other, otherMem, otherAt, secondPublished⟩ :=
    good.published second secondMem runId secondRun
  obtain rfl := Table.eq_of_key_eq runMem otherMem (runAt.trans otherAt.symm)
  refine Table.eq_of_key_eq firstMem secondMem ?_
  have same := firstPublished.named.symm.trans secondPublished.named
  injection same

/-- Nothing stands in the way of the publication of a run that was not published. -/
theorem not_isTaken (member : run ∈ store.runs)
    (unpublished : run.publishedRepresentationId = none) {row : CommerceRepresentation}
    (isSnapshot : row.sourceSnapshotId = run.sourceSnapshotId)
    (isCompiler : row.producer = .compiler)
    (isVersion : row.producerVersion = run.configurationDigest.text) :
    store.isTaken row = false := by
  rw [CompilerStore.isTaken, List.any_eq_false]
  intro other otherMem taken
  simp only [Bool.and_eq_true, decide_eq_true_eq, isSnapshot, isCompiler, isVersion] at taken
  obtain ⟨⟨sameSnapshot, sameProducer⟩, sameVersion⟩ := taken
  cases isRun : other.compilerRunId with
  | none =>
      have manual := good.fixtures other otherMem isRun
      cases manual.symm.trans sameProducer
  | some runId =>
      obtain ⟨publishedRun, runMem, _, published⟩ := good.published other otherMem runId isRun
      have sameDigest : publishedRun.configurationDigest = run.configurationDigest :=
        ContentHash.ext (published.version.symm.trans sameVersion)
      obtain rfl := good.distinct publishedRun runMem run member
        (published.snapshot.symm.trans sameSnapshot) sameDigest
      cases published.named.symm.trans unpublished

end CompilerGood

/-! ## What happens to a store -/

/-- What can happen to a store, and the run whose reviews or whose publication it touches. -/
inductive Changes (store : CompilerStore) : Option Uuid → CompilerStore → Prop
  /-- A statement read, or was refused. -/
  | kept : Changes store none store
  | stored (snapshot : MerchantSourceSnapshot) (sources : Table MerchantSourceSnapshot)
      (holds : ∃ source, AcceptedSource source ∧ snapshot.Holds source)
      (inserted : store.sources.insert? snapshot = some sources) :
      Changes store none { store with sources := sources }
  | compiled (run : CompilerRun) (rows : List CompilerCandidate) (runs : Table CompilerRun)
      (candidates : Table CompilerCandidate) (snapshot : MerchantSourceSnapshot)
      (source : Made MerchantSourceDefinition)
      (sourceOf : SourceOf store.sources run snapshot source)
      (unpublished : run.publishedRepresentationId = none)
      (isNew : ∀ other ∈ store.runs, other.sourceSnapshotId = run.sourceSnapshotId →
        other.configurationDigest ≠ run.configurationDigest)
      (ofRun : ∀ row ∈ rows, row.runId = run.id ∧ row.merchantId = run.merchantId)
      (standFor : run.status = .completed →
        ∀ candidates : List CompilerCandidate, candidates.Perm rows →
          StandFor source.fields candidates)
      (inserted : store.runs.insert? run = some runs)
      (appended : candidates.rows = store.candidates.rows ++ rows) :
      Changes store none { store with runs := runs, candidates := candidates }
  | fixture (representation : CommerceRepresentation)
      (representations : Table CommerceRepresentation)
      (isManual : representation.producer = .manualFixture)
      (noRun : representation.compilerRunId = none)
      (inserted : store.representations.insert? representation = some representations) :
      Changes store none { store with representations := representations }
  | reviewed (run : CompilerRun) (candidate : CompilerCandidate) (review : CompilerReview)
      (reviews : Table CompilerReview) (isRun : run ∈ store.runs)
      (unpublished : run.publishedRepresentationId = none)
      (isCandidate : candidate ∈ store.candidates) (ofRun : run.id = candidate.runId)
      (sameRun : review.runId = candidate.runId) (sameCandidate : review.candidateId = candidate.id)
      (sound : SoundReview store candidate review.decision review.correction)
      (isNew : ∀ other ∈ store.reviews, other.candidateId ≠ review.candidateId)
      (inserted : store.reviews.insert? review = some reviews) :
      Changes store (some run.id) { store with reviews := reviews }
  | published (run : CompilerRun) (snapshot : MerchantSourceSnapshot)
      (source : Made MerchantSourceDefinition) (representation : CommerceRepresentation)
      (representations : Table CommerceRepresentation) (isRun : run ∈ store.runs)
      (completed : run.status = .completed)
      (unpublished : run.publishedRepresentationId = none)
      (assembles : Assembles store run snapshot source representation.definition)
      (ofRun : representation.compilerRunId = some run.id)
      (merchant : representation.merchantId = run.merchantId)
      (isSnapshot : representation.sourceSnapshotId = run.sourceSnapshotId)
      (version : representation.producerVersion = run.configurationDigest.text)
      (inserted : store.representations.insert? representation = some representations) :
      Changes store (some run.id)
        { store with
          representations := representations
          runs := store.runs.set
            { run with publishedRepresentationId := some representation.id } }

/-- What a run sees of a store: its own row, its candidates and its reviews. -/
structure Spares (store result : CompilerStore) (run : CompilerRun) : Prop where
  member : run ∈ result.runs
  candidates : result.candidatesOf run = store.candidatesOf run
  reviews : result.reviewOf run.id = store.reviewOf run.id

variable {store result : CompilerStore} {touched : Option Uuid}

theorem Changes.grows (changes : Changes store touched result) : Grows store result := by
  cases changes with
  | kept => exact .refl store
  | stored snapshot sources _ inserted =>
      exact { Grows.refl store with
        sources := fun other member => (Table.mem_insert?_iff inserted).mpr (Or.inl member) }
  | compiled run rows runs candidates _ _ _ _ _ _ _ inserted appended =>
      exact { Grows.refl store with
        runs := fun other member =>
          ⟨other, (Table.mem_insert?_iff inserted).mpr (Or.inl member), .refl other⟩
        candidates := fun other member => by
          rw [Table.mem_def, appended]
          exact List.mem_append_left _ member }
  | fixture representation representations _ _ inserted =>
      exact { Grows.refl store with
        representations := fun other member =>
          (Table.mem_insert?_iff inserted).mpr (Or.inl member) }
  | reviewed run candidate review reviews _ _ _ _ _ _ _ _ inserted =>
      exact { Grows.refl store with
        reviews := fun other member => (Table.mem_insert?_iff inserted).mpr (Or.inl member) }
  | published run _ _ representation representations isRun _ unpublished _ _ _ _ _ inserted =>
      have related : SameRun run
          { run with publishedRepresentationId := some representation.id } :=
        ⟨rfl, rfl, rfl, rfl, rfl, fun id isPublished => by
          cases unpublished.symm.trans isPublished⟩
      exact { Grows.refl store with
        runs := fun other member =>
          Table.exists_mem_set isRun rfl related SameRun.refl member
        representations := fun other member =>
          (Table.mem_insert?_iff inserted).mpr (Or.inl member) }

/-- A change touches one run that was not published. -/
theorem Changes.unpublished (changes : Changes store (some runId) result) :
    ∃ run ∈ store.runs, run.id = runId ∧ run.publishedRepresentationId = none := by
  cases changes with
  | reviewed run _ _ _ isRun unpublished => exact ⟨run, isRun, rfl, unpublished⟩
  | published run _ _ _ _ isRun _ unpublished => exact ⟨run, isRun, rfl, unpublished⟩

/-- The other runs see nothing of a change. -/
theorem Changes.spares (changes : Changes store touched result) (member : run ∈ store.runs)
    (untouched : touched ≠ some run.id) :
    Spares store result run := by
  cases changes with
  | kept | stored | fixture => exact ⟨member, rfl, rfl⟩
  | compiled other rows runs candidates _ _ _ _ _ ofRun _ inserted appended =>
      refine ⟨(Table.mem_insert?_iff inserted).mpr (Or.inl member), ?_, rfl⟩
      refine candidatesOf_append appended fun row rowMem sameRun => ?_
      have fresh := (Table.insert?_eq_some_iff.mp inserted).1 run member
      exact fresh (sameRun.symm.trans (ofRun row rowMem).1)
  | reviewed other candidate review reviews _ _ _ ofRun sameRun _ _ _ inserted =>
      refine ⟨member, rfl, reviewOf_append (Table.insert?_eq_some_iff.mp inserted).2 ?_⟩
      rw [sameRun, ← ofRun]
      exact fun same => untouched (congrArg some same)
  | published other _ _ representation representations isRun =>
      refine ⟨Table.mem_set_of_ne member ?_, rfl, rfl⟩
      exact fun same => untouched (congrArg some same.symm)

/-! ## Good stores stay good -/

theorem SoundReview.grows {candidate : CompilerCandidate} {decision : ReviewDecision}
    {correction : Option (Made CandidateProposal)}
    (sound : SoundReview store candidate decision correction) (grows : Grows store result) :
    SoundReview result candidate decision correction := by
  obtain ⟨run, member, runAt, snapshot, source, sourceOf, isSound⟩ := sound
  obtain ⟨next, nextMem, same⟩ := grows.runs run member
  exact ⟨next, nextMem, same.id.trans runAt, snapshot, source,
    sourceOf.later grows.sources same, isSound⟩

theorem Assembles.spared {definition : Made CommerceIRDefinition}
    (assembles : Assembles store run snapshot source definition) (grows : Grows store result)
    (spares : Spares store result run) : Assembles result run snapshot source definition where
  sourceOf := assembles.sourceOf.later grows.sources (.refl run)
  resolved := by
    have resolved := assembles.resolved
    rw [unresolved_eq_nil_iff] at resolved ⊢
    rw [spares.candidates, spares.reviews]
    exact resolved
  isOk := by
    rw [spares.candidates, spares.reviews]
    exact assembles.isOk

theorem PublishedAs.spared {representation : CommerceRepresentation}
    (published : PublishedAs store run representation) (grows : Grows store result)
    (spares : Spares store result run) : PublishedAs result run representation where
  completed := published.completed
  named := published.named
  merchant := published.merchant
  snapshot := published.snapshot
  version := published.version
  assembles := by
    obtain ⟨snapshot, source, assembles⟩ := published.assembles
    exact ⟨snapshot, source, assembles.spared grows spares⟩

/-- A run that was published sees nothing of a change. -/
theorem Changes.spares_published (changes : Changes store touched result)
    (member : run ∈ store.runs) (published : run.publishedRepresentationId ≠ none) :
    Spares store result run := by
  refine changes.spares member ?_
  rintro rfl
  obtain ⟨other, otherMem, sameId, unpublished⟩ := changes.unpublished
  obtain rfl := Table.eq_of_key_eq otherMem member sameId
  exact published unpublished

/-- The publications that were there before a change are still there. -/
theorem CompilerGood.published_later (good : CompilerGood store)
    (changes : Changes store touched result) {representation : CommerceRepresentation}
    (member : representation ∈ store.representations) {runId : Uuid}
    (isRun : representation.compilerRunId = some runId) :
    ∃ run ∈ result.runs, run.id = runId ∧ PublishedAs result run representation := by
  obtain ⟨run, runMem, runAt, published⟩ := good.published representation member runId isRun
  have isPublished : run.publishedRepresentationId ≠ none := by
    rw [published.named]
    exact Option.some_ne_none _
  have spares := changes.spares_published runMem isPublished
  exact ⟨run, spares.member, runAt, published.spared changes.grows spares⟩

theorem CompilerGood.reviews_later (good : CompilerGood store) (grows : Grows store result)
    {review : CompilerReview} (member : review ∈ store.reviews) :
    ∃ candidate ∈ result.candidates, candidate.id = review.candidateId ∧
      candidate.runId = review.runId ∧
        SoundReview result candidate review.decision review.correction := by
  obtain ⟨candidate, candidateMem, isCandidate, isRun, sound⟩ := good.reviews review member
  exact ⟨candidate, grows.candidates _ candidateMem, isCandidate, isRun, sound.grows grows⟩

theorem CompilerGood.candidates_later (good : CompilerGood store) (grows : Grows store result)
    {candidate : CompilerCandidate} (member : candidate ∈ store.candidates) :
    ∃ run ∈ result.runs, run.id = candidate.runId ∧ run.merchantId = candidate.merchantId := by
  obtain ⟨run, runMem, runAt, merchant⟩ := good.candidates candidate member
  obtain ⟨next, nextMem, same⟩ := grows.runs run runMem
  exact ⟨next, nextMem, same.id.trans runAt, same.merchant.trans merchant⟩

/-- Every change keeps a store good. -/
theorem CompilerGood.changes (good : CompilerGood store)
    (changes : Changes store touched result) : CompilerGood result := by
  have grows := changes.grows
  have published := fun representation member runId isRun =>
    @CompilerGood.published_later _ _ _ _ _ _ good changes representation member runId isRun
  have reviews := fun review member =>
    @CompilerGood.reviews_later _ _ _ _ _ good grows review member
  have candidates := fun candidate member =>
    @CompilerGood.candidates_later _ _ _ _ _ good grows candidate member
  cases changes with
  | kept => exact good
  | stored snapshot sources holds inserted =>
      refine { good with
        sources := ?_
        runs := ?_
        reviews := reviews
        published := published }
      · intro other member
        rcases (Table.mem_insert?_iff inserted).mp member with isOld | rfl
        · exact good.sources other isOld
        · exact holds
      · intro run member
        obtain ⟨other, source, sourceOf, standFor⟩ := good.runs run member
        exact ⟨other, source, sourceOf.later grows.sources (.refl run), standFor⟩
  | fixture representation representations isManual noRun inserted =>
      refine { good with
        fixtures := ?_
        published := ?_
        named := ?_ }
      · intro other member isFixture
        rcases (Table.mem_insert?_iff inserted).mp member with isOld | rfl
        · exact good.fixtures other isOld isFixture
        · exact isManual
      · intro other member runId isRun
        rcases (Table.mem_insert?_iff inserted).mp member with isOld | rfl
        · exact published other isOld runId isRun
        · cases noRun.symm.trans isRun
      · intro run member id isNamed
        obtain ⟨other, otherMem, isOther⟩ := good.named run member id isNamed
        exact ⟨other, grows.representations _ otherMem, isOther⟩
  | reviewed run candidate review table isRun unpublished isCandidate ofRun sameRun sameCandidate
      sound isNew inserted =>
      refine { good with
        reviews := ?_
        single := ?_
        published := published }
      · intro other member
        rcases (Table.mem_insert?_iff inserted).mp member with isOld | rfl
        · exact reviews other isOld
        · exact ⟨candidate, isCandidate, sameCandidate.symm, sameRun.symm, sound⟩
      · intro first firstMem second secondMem same
        rcases (Table.mem_insert?_iff inserted).mp firstMem with isFirst | rfl <;>
          rcases (Table.mem_insert?_iff inserted).mp secondMem with isSecond | rfl
        · exact good.single first isFirst second isSecond same
        · exact absurd same (isNew first isFirst)
        · exact absurd same.symm (isNew second isSecond)
        · rfl
  | compiled run rows runs table snapshot source sourceOf unpublished isNew ofRun standFor
      inserted appended =>
      have freshRun := (Table.insert?_eq_some_iff.mp inserted).1
      refine { good with
        runs := ?_
        distinct := ?_
        candidates := ?_
        reviews := reviews
        published := published
        named := ?_ }
      · intro other member
        rcases (Table.mem_insert?_iff inserted).mp member with isOld | rfl
        · obtain ⟨otherSnapshot, otherSource, isOther, stands⟩ := good.runs other isOld
          refine ⟨otherSnapshot, otherSource, isOther, fun completed => ?_⟩
          have same := @candidatesOf_append store other table rows appended fun row rowMem sameRun =>
            freshRun other isOld (sameRun.symm.trans (ofRun row rowMem).1)
          exact same ▸ stands completed
        · refine ⟨snapshot, source, sourceOf, fun completed => ?_⟩
          refine standFor completed _ (candidatesOf_append_perm appended ?_ ofRun)
          intro candidate member sameRun
          obtain ⟨otherRun, otherMem, isOther, _⟩ := good.candidates candidate member
          exact freshRun otherRun otherMem (isOther.trans sameRun)
      · intro first firstMem second secondMem sameSource sameDigest
        rcases (Table.mem_insert?_iff inserted).mp firstMem with isFirst | rfl <;>
          rcases (Table.mem_insert?_iff inserted).mp secondMem with isSecond | rfl
        · exact good.distinct first isFirst second isSecond sameSource sameDigest
        · exact absurd sameDigest (isNew first isFirst sameSource)
        · exact absurd sameDigest.symm (isNew second isSecond sameSource.symm)
        · rfl
      · intro candidate member
        rw [Table.mem_def, appended, List.mem_append] at member
        rcases member with isOld | isRow
        · exact candidates candidate isOld
        · obtain ⟨isRun, merchant⟩ := ofRun candidate isRow
          exact ⟨run, (Table.mem_insert?_iff inserted).mpr (Or.inr rfl), isRun.symm, merchant.symm⟩
      · intro other member id isNamed
        rcases (Table.mem_insert?_iff inserted).mp member with isOld | rfl
        · exact good.named other isOld id isNamed
        · cases unpublished.symm.trans isNamed
  | published run snapshot source representation representations isRun completed unpublished
      assembles ofRun merchant isSnapshot version inserted =>
      have isSet := fun other => @Table.mem_set_iff _ _ _ _ store.runs run
        { run with publishedRepresentationId := some representation.id } other isRun rfl
      have isWritten : { run with publishedRepresentationId := some representation.id } ∈
          store.runs.set { run with publishedRepresentationId := some representation.id } :=
        (isSet _).mpr (Or.inl rfl)
      refine { good with
        runs := ?_
        distinct := ?_
        candidates := candidates
        reviews := reviews
        fixtures := ?_
        published := ?_
        named := ?_ }
      · intro other member
        rcases (isSet other).mp member with rfl | ⟨isOld, _⟩
        · obtain ⟨held, heldSource, isHeld, stands⟩ := good.runs run isRun
          exact ⟨held, heldSource, ⟨isHeld.stored, isHeld.isSource, isHeld.merchant,
            isHeld.accepted, isHeld.holds⟩, stands⟩
        · exact good.runs other isOld
      · intro first firstMem second secondMem sameSource sameDigest
        rcases (isSet first).mp firstMem with rfl | ⟨isFirst, firstOther⟩ <;>
          rcases (isSet second).mp secondMem with rfl | ⟨isSecond, secondOther⟩
        · rfl
        · cases good.distinct run isRun second isSecond sameSource sameDigest
          exact absurd rfl secondOther
        · cases good.distinct first isFirst run isRun sameSource sameDigest
          exact absurd rfl firstOther
        · exact good.distinct first isFirst second isSecond sameSource sameDigest
      · intro other member isFixture
        rcases (Table.mem_insert?_iff inserted).mp member with isOld | rfl
        · exact good.fixtures other isOld isFixture
        · cases ofRun.symm.trans isFixture
      · intro other member runId isOther
        rcases (Table.mem_insert?_iff inserted).mp member with isOld | rfl
        · exact published other isOld runId isOther
        · cases ofRun.symm.trans isOther
          refine ⟨_, isWritten, rfl, completed, rfl, merchant, isSnapshot, version, snapshot,
            source, ⟨?_, assembles.resolved, assembles.isOk⟩⟩
          exact ⟨assembles.sourceOf.stored, assembles.sourceOf.isSource,
            assembles.sourceOf.merchant, assembles.sourceOf.accepted, assembles.sourceOf.holds⟩
      · intro other member id isNamed
        rcases (isSet other).mp member with rfl | ⟨isOld, _⟩
        · cases isNamed
          exact ⟨representation, (Table.mem_insert?_iff inserted).mpr (Or.inr rfl), rfl, ofRun,
            merchant⟩
        · obtain ⟨named, namedMem, isOther⟩ := good.named other isOld id isNamed
          exact ⟨named, grows.representations _ namedMem, isOther⟩

end Good

end AgentRank.Compiler
