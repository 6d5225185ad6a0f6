import AgentRank.Compiler.Publication

/-!
# Reviews beside publications

While the rows of the runs are locked, every statement of a review or of a publication finds
what the statements before it have read.  A store therefore stays good, however many clients
review and publish.
-/

namespace AgentRank.Compiler

open Constraints Relational Representation Store Text Transition

/-- The candidate that a review is of. -/
structure Reviewing (store : CompilerStore) (call : ReviewCall) (candidate : CompilerCandidate) :
    Prop where
  member : candidate ∈ store.candidates
  merchant : candidate.merchantId = call.merchantId

/-- The run of a candidate was not published. -/
def IsOpen (store : CompilerStore) (candidate : CompilerCandidate) : Prop :=
  ∃ run ∈ store.runs, run.id = candidate.runId ∧ run.publishedRepresentationId = none

/-- The run that is being published. -/
structure Publishing (store : CompilerStore) (run : CompilerRun) : Prop where
  member : run ∈ store.runs
  completed : run.status = .completed
  unpublished : run.publishedRepresentationId = none

/-- What the others leave to a stage: nothing is deleted, and nobody touches the run that it
has locked. -/
structure Beside (stage : CompilerStage) (store result : CompilerStore) : Prop where
  grows : Grows store result
  spares : ∀ run ∈ store.runs, stage.holdsRun = some run.id → Spares store result run

variable {run : CompilerRun}

section Beside

variable {stage : CompilerStage} {store result : CompilerStore}

variable {candidate : CompilerCandidate}

theorem Reviewing.beside {call : ReviewCall} (reviewing : Reviewing store call candidate)
    (beside : Beside stage store result) :
    Reviewing result call candidate where
  member := beside.grows.candidates _ reviewing.member
  merchant := reviewing.merchant

theorem IsOpen.beside (isOpen : IsOpen store candidate) (beside : Beside stage store result)
    (holds : stage.holdsRun = some candidate.runId) :
    IsOpen result candidate := by
  obtain ⟨run, member, isRun, unpublished⟩ := isOpen
  exact ⟨run, (beside.spares run member (isRun ▸ holds)).member, isRun, unpublished⟩

theorem IsOpen.reviewOf (isOpen : IsOpen store candidate) (beside : Beside stage store result)
    (holds : stage.holdsRun = some candidate.runId) :
    result.reviewOf candidate.runId = store.reviewOf candidate.runId := by
  obtain ⟨run, member, isRun, _⟩ := isOpen
  rw [← isRun]
  exact (beside.spares run member (isRun ▸ holds)).reviews

theorem Publishing.beside (publishing : Publishing store run) (beside : Beside stage store result)
    (holds : stage.holdsRun = some run.id) :
    Publishing result run ∧ Spares store result run := by
  have spares := beside.spares run publishing.member holds
  exact ⟨⟨spares.member, publishing.completed, publishing.unpublished⟩, spares⟩

end Beside

variable {store : CompilerStore}

theorem run?_eq_some_iff {merchantId runId : Uuid} :
    store.run? merchantId runId = some run ↔
      run ∈ store.runs ∧ run.id = runId ∧ run.merchantId = merchantId := by
  rw [CompilerStore.run?, Option.filter_eq_some_iff, Table.get?_eq_some_iff, decide_eq_true_eq,
    and_assoc]
  rfl

/-- The rows of a completed run stand for the readings of its source. -/
theorem standFor_candidateRows [CharacterTables] {source : Made MerchantSourceDefinition}
    (accepted : AcceptedSource source) (fit : ExcerptsFit source.fields)
    {proposed : List (Made CandidateProposal × CandidateState)}
    (extracted : extract source.fields = .ok proposed) {candidateIds : List Uuid}
    (counted : candidateIds.length = proposed.length) {candidates : List CompilerCandidate}
    (perm : candidates.Perm (CompilerStore.candidateRows run candidateIds proposed)) :
    StandFor source.fields candidates := by
  have fits := (readings_fit_iff (shortTexts_of_accepted accepted)).mpr fit
  have seconds : (candidateIds.zip proposed).map Prod.snd = proposed :=
    List.map_snd_zip counted.ge
  have targets : (CompilerStore.candidateRows run candidateIds proposed).map
      CompilerCandidate.target = proposed.map fun candidate => candidate.1.fields.target := by
    conv_rhs => rw [← seconds]
    rw [CompilerStore.candidateRows, List.map_map, List.map_map]
    rfl
  refine ⟨?_, ?_, ?_⟩
  · rw [(perm.map CompilerCandidate.target).nodup_iff, targets]
    exact targets_nodup (sourceSound_iff.mp source.sound) accepted.plain extracted
  · intro candidate member
    obtain ⟨⟨id, row⟩, rowMem, rfl⟩ := List.mem_map.mp (perm.subset member)
    obtain ⟨reading, readingMem, isProposed⟩ :=
      exists_of_mem_mapM extracted (List.of_mem_zip rowMem).2
    exact ⟨reading, readingMem, isProposed, (proposed_of_propose isProposed).1.target,
      fits reading readingMem⟩
  · intro reading readingMem
    obtain ⟨row, rowMem, isProposed⟩ :=
      exists_right_of_forall₂ (mapM_eq_ok_iff.mp extracted) readingMem
    rw [← seconds] at rowMem
    obtain ⟨⟨id, sameRow⟩, pairMem, rfl⟩ := List.mem_map.mp rowMem
    refine ⟨_, perm.symm.subset (List.mem_map_of_mem pairMem), isProposed,
      (proposed_of_propose isProposed).1.target, fits reading readingMem⟩

section Publishing

variable [CharacterTables] [ContentDigest] [FieldOrder]

/-- What a stage relies on. -/
def CompilerStage.Relies (store : CompilerStore) : CompilerStage → Prop
  | lockReview _ | claimPublication _ | lockRun _ => True
  | readPublished call candidate => Reviewing store call candidate
  | checkReview call candidate => Reviewing store call candidate ∧ IsOpen store candidate
  | readReview call candidate =>
      Reviewing store call candidate ∧ IsOpen store candidate ∧
        SoundReview store candidate call.decision call.correction
  | writeReview call candidate =>
      Reviewing store call candidate ∧ IsOpen store candidate ∧
        SoundReview store candidate call.decision call.correction ∧
          store.reviewOf candidate.runId candidate.id = none
  | readSource run => Publishing store run
  | readCandidates run snapshot source =>
      Publishing store run ∧ SourceOf store.sources run snapshot source
  | readReviews run snapshot source candidates =>
      Publishing store run ∧ SourceOf store.sources run snapshot source ∧
        candidates = store.candidatesOf run
  | writeRepresentation run snapshot definition =>
      Publishing store run ∧ ∃ source, Assembles store run snapshot source definition
  | recover _ _ => False

/-- The discipline of the compiler's clients: a lock is held by one of them. -/
def compilerDiscipline : System.Discipline CompilerStore CompilerStage where
  shared := CompilerGood
  relies store stage := stage.Relies store
  apart first second :=
    (∀ runId, first.holdsRun = some runId → second.holdsRun ≠ some runId) ∧
      ∀ merchantId, first.holdsLine = some merchantId → second.holdsLine ≠ some merchantId

theorem Changes.beside {result : CompilerStore} {touched : Option Uuid}
    (changes : Changes store touched result) {stage : CompilerStage}
    (apart : ∀ runId, touched = some runId → stage.holdsRun ≠ some runId) :
    Beside stage store result where
  grows := changes.grows
  spares _ member holds := changes.spares member fun isTouched => apart _ isTouched holds

theorem CompilerStage.Relies.beside {stage : CompilerStage} {result : CompilerStore}
    (relies : stage.Relies store) (beside : Beside stage store result) : stage.Relies result := by
  cases stage with
  | lockReview | claimPublication | lockRun => trivial
  | readPublished => exact Reviewing.beside relies beside
  | checkReview =>
      obtain ⟨reviewing, isOpen⟩ := relies
      exact ⟨reviewing.beside beside, isOpen.beside beside rfl⟩
  | readReview =>
      obtain ⟨reviewing, isOpen, sound⟩ := relies
      exact ⟨reviewing.beside beside, isOpen.beside beside rfl, sound.grows beside.grows⟩
  | writeReview call candidate =>
      obtain ⟨reviewing, isOpen, sound, unreviewed⟩ := relies
      refine ⟨reviewing.beside beside, isOpen.beside beside rfl, sound.grows beside.grows, ?_⟩
      rw [isOpen.reviewOf beside rfl]
      exact unreviewed
  | readSource => exact (Publishing.beside relies beside rfl).1
  | readCandidates run =>
      obtain ⟨publishing, sourceOf⟩ := relies
      exact ⟨(publishing.beside beside rfl).1,
        sourceOf.later beside.grows.sources (.refl run)⟩
  | readReviews run =>
      obtain ⟨publishing, sourceOf, same⟩ := relies
      obtain ⟨publishingLater, spares⟩ := publishing.beside beside rfl
      exact ⟨publishingLater, sourceOf.later beside.grows.sources (.refl run),
        same.trans spares.candidates.symm⟩
  | writeRepresentation =>
      obtain ⟨publishing, source, assembles⟩ := relies
      obtain ⟨publishingLater, spares⟩ := publishing.beside beside rfl
      exact ⟨publishingLater, source, assembles.spared beside.grows spares⟩
  | recover => exact relies

/-! ## The steps of a review -/

variable {next : CompilerStage}

section Review

variable {store : CompilerStore} {call : ReviewCall} {candidate : CompilerCandidate}

theorem source?_of_sourceOf {snapshot : MerchantSourceSnapshot}
    {source : Made MerchantSourceDefinition}
    (sourceOf : SourceOf store.sources run snapshot source) :
    store.source? run.merchantId run.sourceSnapshotId = some snapshot := by
  rw [CompilerStore.source?, Option.filter_eq_some_iff, Table.get?_eq_some_iff, decide_eq_true_eq]
  exact ⟨⟨sourceOf.stored, sourceOf.isSource⟩, sourceOf.merchant⟩

theorem lockReview_next (goesOn : lockReview store call = .next next) :
    next.Relies store := by
  unfold lockReview at goesOn
  split at goesOn
  · cases goesOn
  · next found =>
      cases goesOn
      rw [Option.filter_eq_some_iff, Table.get?_eq_some_iff] at found
      simp only [Bool.and_eq_true, decide_eq_true_eq] at found
      exact ⟨found.1.1, found.2.1⟩

theorem readPublished_next (reviewing : Reviewing store call candidate)
    (goesOn : readPublished store call candidate = .next next) : next.Relies store := by
  unfold readPublished at goesOn
  split at goesOn
  · cases goesOn
  · next run found =>
      split at goesOn
      · cases goesOn
      · next unpublished =>
          cases goesOn
          obtain ⟨member, isRun, _⟩ := run?_eq_some_iff.mp found
          exact ⟨reviewing, run, member, isRun, by simpa using unpublished⟩

/-- What passes the checks of a review is sound over the source of the run. -/
theorem checkReview_next (good : CompilerGood store) (reviewing : Reviewing store call candidate)
    (isOpen : IsOpen store candidate) (goesOn : checkReview store call candidate = .next next) :
    next.Relies store := by
  unfold checkReview at goesOn
  split at goesOn
  · cases goesOn
  · next valid =>
      cases goesOn
      obtain ⟨run, member, isRun, merchant⟩ := good.candidates candidate reviewing.member
      obtain ⟨snapshot, source, sourceOf, _⟩ := good.runs run member
      have payload : store.payloadOfRun call.merchantId candidate.runId = .ok snapshot.payload := by
        have sameMerchant := merchant.trans reviewing.merchant
        have isSource := source?_of_sourceOf sourceOf
        rw [sameMerchant] at isSource
        rw [CompilerStore.payloadOfRun,
          run?_eq_some_iff.mpr ⟨member, isRun, sameMerchant⟩]
        dsimp only
        rw [isSource]
      exact ⟨reviewing, isOpen, run, member, isRun, snapshot, source, sourceOf,
        validateReview_sound valid payload sourceOf.parsed⟩

theorem readReview_next (reviewing : Reviewing store call candidate)
    (isOpen : IsOpen store candidate)
    (sound : SoundReview store candidate call.decision call.correction)
    (goesOn : readReview store call candidate = .next next) : next.Relies store := by
  unfold readReview at goesOn
  split at goesOn
  · next unreviewed =>
      cases goesOn
      refine ⟨reviewing, isOpen, sound, ?_⟩
      rw [CompilerStore.existingReview, List.find?_eq_none] at unreviewed
      rw [CompilerStore.reviewOf, List.find?_eq_none]
      intro review member isReview
      simp only [Bool.and_eq_true] at isReview
      exact unreviewed review member isReview.2
  · split at goesOn <;> cases goesOn

/-- Without a review among those of its run, a candidate has none. -/
theorem unreviewed_of_reviewOf (good : CompilerGood store) (member : candidate ∈ store.candidates)
    (unreviewed : store.reviewOf candidate.runId candidate.id = none) :
    ∀ review ∈ store.reviews, review.candidateId ≠ candidate.id := by
  intro review reviewMem isCandidate
  obtain ⟨other, otherMem, isOther, isRun, _⟩ := good.reviews review reviewMem
  obtain rfl := Table.eq_of_key_eq otherMem member (isOther.trans isCandidate)
  rw [CompilerStore.reviewOf, List.find?_eq_none] at unreviewed
  exact unreviewed review reviewMem (by simp [isRun, isCandidate])

theorem writeReview_changes (good : CompilerGood store) (reviewing : Reviewing store call candidate)
    (isOpen : IsOpen store candidate)
    (sound : SoundReview store candidate call.decision call.correction)
    (unreviewed : store.reviewOf candidate.runId candidate.id = none) (input : CompilerInput) :
    (∃ touched, Changes store touched (writeReview store input call candidate).1 ∧
      ∀ runId, touched = some runId → some candidate.runId = some runId) ∧
        ∀ next, (writeReview store input call candidate).2 = .next next →
          (writeReview store input call candidate).1 = store ∧ next = .writeReview call candidate := by
  unfold writeReview
  dsimp only
  split
  · exact ⟨⟨none, .kept, nofun⟩, fun next goesOn => by
      cases goesOn
      exact ⟨rfl, rfl⟩⟩
  · exact ⟨⟨none, .kept, nofun⟩, fun next goesOn => by cases goesOn⟩
  · next written isWritten =>
      refine ⟨?_, fun next goesOn => by cases goesOn⟩
      unfold CompilerStore.insertReview at isWritten
      split at isWritten
      · cases isWritten
      · next reviews inserted =>
          split at isWritten
          · cases isWritten
          · split at isWritten
            · cases isWritten
            · cases isWritten
              obtain ⟨run, isRun, isAt, unpublished⟩ := isOpen
              refine ⟨some run.id, ?_, fun runId isSome => isAt ▸ isSome⟩
              exact .reviewed run candidate _ reviews isRun unpublished reviewing.member isAt rfl rfl
                sound (unreviewed_of_reviewOf good reviewing.member unreviewed) inserted

end Review

/-! ## The steps of a publication -/

section Publish

variable {store : CompilerStore} {run : CompilerRun} {snapshot : MerchantSourceSnapshot}
  {source : Made MerchantSourceDefinition} {definition : Made CommerceIRDefinition}

theorem lockRun_next {call : PublishCall} (goesOn : lockRun store call = .next next) :
    next.Relies store := by
  unfold lockRun at goesOn
  split at goesOn
  · cases goesOn
  · next run found =>
      split at goesOn
      · cases goesOn
      · next completed =>
          split at goesOn
          · next unpublished =>
              cases goesOn
              obtain ⟨member, _⟩ := run?_eq_some_iff.mp found
              exact ⟨member, not_not.mp completed, unpublished⟩
          · split at goesOn <;> cases goesOn

/-- The source of a run is found and read. -/
theorem readSource_eq (good : CompilerGood store) (publishing : Publishing store run) :
    ∃ snapshot source, SourceOf store.sources run snapshot source ∧
      readSource store run = .next (.readCandidates run snapshot source) := by
  obtain ⟨snapshot, source, sourceOf, _⟩ := good.runs run publishing.member
  refine ⟨snapshot, source, sourceOf, ?_⟩
  rw [readSource, source?_of_sourceOf sourceOf]
  dsimp only
  rw [sourceOf.parsed]

/-- What a run comes to is waited for, or is assembled. -/
theorem readReviews_eq (good : CompilerGood store) (publishing : Publishing store run)
    (sourceOf : SourceOf store.sources run snapshot source) :
    (store.unresolved run ≠ [] ∧
      readReviews store run snapshot source (store.candidatesOf run) =
        .raises (conflict "compiler_review_required" (String.intercalate ", "
          ((store.unresolved run).map CompilerCandidate.target)))) ∨
      ∃ definition, Assembles store run snapshot source definition ∧
        readReviews store run snapshot source (store.candidatesOf run) =
          .next (.writeRepresentation run snapshot definition) := by
  by_cases waiting : store.unresolved run = []
  · obtain ⟨standFor, resolved⟩ :=
      good.resolved publishing.member publishing.completed waiting sourceOf
    obtain ⟨definition, isOk⟩ := exists_representationOf (sourceSound_iff.mp source.sound)
      sourceOf.accepted.plain standFor resolved snapshot.contentHash run.configurationDigest
    refine Or.inr ⟨definition, ⟨sourceOf, waiting, isOk⟩, ?_⟩
    unfold readReviews
    rw [← CompilerStore.unresolved, waiting, isOk]
    rfl
  · refine Or.inl ⟨waiting, ?_⟩
    unfold readReviews
    rw [← CompilerStore.unresolved]
    exact if_pos waiting

/-- What a run comes to is never refused. -/
theorem representationRefusal_eq_none (assembles : Assembles store run snapshot source definition) :
    representationRefusal run snapshot definition.fields = none := by
  obtain ⟨proposals, _, assembled⟩ := except_bind_eq_ok_iff.mp assembles.isOk
  obtain ⟨shown, sourceHash, producer, version⟩ := definitionShown_of_assemble assembled
  have holds := assembles.sourceOf.holds
  unfold representationRefusal
  rw [if_neg, if_neg, if_neg]
  · simp [assembles.sourceOf.merchant, assembles.sourceOf.isSource, version]
  · simp [producer]
  · simp [shown.sourceKey, shown.sourceVersion, sourceHash, holds.sourceKey, holds.sourceVersion]

/-- The row of a publication. -/
def publishedRow (id : Uuid) (run : CompilerRun) (snapshot : MerchantSourceSnapshot)
    (definition : Made CommerceIRDefinition) : CommerceRepresentation where
  id := id
  merchantId := snapshot.merchantId
  sourceSnapshotId := snapshot.id
  compilerRunId := some run.id
  producer := .compiler
  producerVersion := definition.fields.producerVersion
  definition := definition

/-- A publication is written, unless the identifier that was drawn is taken. -/
theorem writeRepresentation_eq (good : CompilerGood store) (publishing : Publishing store run)
    (assembles : Assembles store run snapshot source definition) (input : CompilerInput) :
    writeRepresentation store input run snapshot definition =
      match store.representations.insert? (publishedRow input.newId run snapshot definition) with
      | none => (store, .next (.writeRepresentation run snapshot definition))
      | some representations =>
          ({ store with
              representations := representations
              runs := store.runs.set { run with publishedRepresentationId := some input.newId } },
            .returns input.newId) := by
  have notTaken : store.isTaken (publishedRow input.newId run snapshot definition) = false := by
    obtain ⟨proposals, _, assembled⟩ := except_bind_eq_ok_iff.mp assembles.isOk
    obtain ⟨_, _, _, version⟩ := definitionShown_of_assemble assembled
    exact good.not_isTaken publishing.member publishing.unpublished assembles.sourceOf.isSource rfl
      version
  unfold writeRepresentation
  rw [representationRefusal_eq_none assembles]
  dsimp only
  rw [← publishedRow, notTaken]
  rfl

theorem writeRepresentation_changes (good : CompilerGood store)
    (publishing : Publishing store run)
    (assembles : Assembles store run snapshot source definition) (input : CompilerInput) :
    (∃ touched, Changes store touched (writeRepresentation store input run snapshot definition).1 ∧
      ∀ runId, touched = some runId → some run.id = some runId) ∧
        ∀ next, (writeRepresentation store input run snapshot definition).2 = .next next →
          (writeRepresentation store input run snapshot definition).1 = store ∧
            next = .writeRepresentation run snapshot definition := by
  rw [writeRepresentation_eq good publishing assembles]
  split
  · refine ⟨⟨none, .kept, nofun⟩, fun next goesOn => ?_⟩
    cases goesOn
    exact ⟨rfl, rfl⟩
  · next representations inserted =>
      obtain ⟨proposals, _, assembled⟩ := except_bind_eq_ok_iff.mp assembles.isOk
      obtain ⟨_, _, _, version⟩ := definitionShown_of_assemble assembled
      refine ⟨⟨some run.id, ?_, fun _ isSome => isSome⟩, fun next goesOn => by cases goesOn⟩
      exact .published run snapshot source (publishedRow input.newId run snapshot definition)
        representations publishing.member publishing.completed publishing.unpublished assembles rfl
        assembles.sourceOf.merchant assembles.sourceOf.isSource version inserted

end Publish

section Steps

variable {store : CompilerStore} {stage : CompilerStage}

/-- What a statement writes, it writes about the run that it has locked. -/
theorem perform_changes (good : CompilerGood store) (relies : stage.Relies store)
    (input : CompilerInput) :
    ∃ touched, Changes store touched (stage.perform input store).1 ∧
      ∀ runId, touched = some runId → stage.holdsRun = some runId := by
  cases stage with
  | writeReview call candidate =>
      obtain ⟨reviewing, isOpen, sound, unreviewed⟩ := relies
      exact (writeReview_changes good reviewing isOpen sound unreviewed input).1
  | writeRepresentation run snapshot definition =>
      obtain ⟨publishing, source, assembles⟩ := relies
      exact (writeRepresentation_changes good publishing assembles input).1
  | _ => exact ⟨none, .kept, nofun⟩

/-- A statement leaves what the next one relies on. -/
theorem perform_next (good : CompilerGood store) (relies : stage.Relies store)
    {input : CompilerInput} (goesOn : (stage.perform input store).2 = .next next) :
    next.Relies (stage.perform input store).1 := by
  cases stage with
  | lockReview call => exact lockReview_next goesOn
  | readPublished call candidate => exact readPublished_next relies goesOn
  | checkReview call candidate => exact checkReview_next good relies.1 relies.2 goesOn
  | readReview call candidate => exact readReview_next relies.1 relies.2.1 relies.2.2 goesOn
  | writeReview call candidate =>
      obtain ⟨reviewing, isOpen, sound, unreviewed⟩ := relies
      obtain ⟨same, rfl⟩ :=
        (writeReview_changes good reviewing isOpen sound unreviewed input).2 next goesOn
      change CompilerStage.Relies (Compiler.writeReview store input call candidate).1 _
      rw [same]
      exact ⟨reviewing, isOpen, sound, unreviewed⟩
  | claimPublication call =>
      cases goesOn
      trivial
  | lockRun call => exact lockRun_next goesOn
  | readSource run =>
      obtain ⟨snapshot, source, sourceOf, isNext⟩ := readSource_eq good relies
      cases isNext.symm.trans goesOn
      exact ⟨relies, sourceOf⟩
  | readCandidates run snapshot source =>
      cases goesOn
      exact ⟨relies.1, relies.2, rfl⟩
  | readReviews run snapshot source candidates =>
      obtain ⟨publishing, sourceOf, rfl⟩ := relies
      rcases readReviews_eq good publishing sourceOf with ⟨_, raises⟩ | ⟨definition, assembles, isNext⟩
      · cases raises.symm.trans goesOn
      · cases isNext.symm.trans goesOn
        exact ⟨publishing, source, assembles⟩
  | writeRepresentation run snapshot definition =>
      obtain ⟨publishing, source, assembles⟩ := relies
      obtain ⟨same, rfl⟩ :=
        (writeRepresentation_changes good publishing assembles input).2 next goesOn
      change CompilerStage.Relies
        (Compiler.writeRepresentation store input run snapshot definition).1 _
      rw [same]
      exact ⟨publishing, source, assembles⟩
  | recover => exact absurd relies id

end Steps

section Outside

variable {store : CompilerStore}

theorem recordRun_changes (good : CompilerGood store) (runId merchantId sourceId : Uuid)
    (configurationDigest : ContentHash) (candidateIds : List Uuid) :
    Changes store none
      (store.recordRun runId merchantId sourceId configurationDigest candidateIds) := by
  unfold CompilerStore.recordRun
  split
  · exact .kept
  · next snapshot found =>
      split
      · exact .kept
      · next isNew =>
          dsimp only
          split
          · exact .kept
          · next checked =>
              split
              · next runs candidates inserted appended =>
                  rw [CompilerStore.source?, Option.filter_eq_some_iff, Table.get?_eq_some_iff,
                    decide_eq_true_eq] at found
                  obtain ⟨⟨member, isSource⟩, merchant⟩ := found
                  obtain ⟨source, accepted, holds⟩ := good.sources snapshot member
                  refine .compiled _ _ runs candidates snapshot source
                    ⟨member, isSource, merchant, accepted, holds⟩ rfl ?_ ?_ ?_ inserted
                    (Table.insertAll?_rows appended)
                  · intro other otherMem sameSource sameDigest
                    rw [List.any_eq_true] at isNew
                    exact isNew ⟨other, otherMem, by simpa using ⟨sameSource, sameDigest⟩⟩
                  · intro row rowMem
                    obtain ⟨pair, _, rfl⟩ := List.mem_map.mp rowMem
                    exact ⟨rfl, rfl⟩
                  · intro completed rows perm
                    obtain ⟨proposed, extracted⟩ := exists_extract source.fields
                    have counted := (not_or.mp checked).1
                    rw [holds.payload, holds.contentHash] at completed counted perm
                    rcases compile_of_accepted accepted extracted with ⟨fit, compiled⟩ | ⟨_, failed⟩
                    · rw [compiled] at counted perm
                      exact standFor_candidateRows accepted fit extracted (not_not.mp counted) perm
                    · rw [failed] at completed
                      cases completed
              · exact .kept

theorem happen_changes (good : CompilerGood store) {event : CompilerEvent}
    (occurs : compilerRegime.occurs event) : Changes store none (event.happen store) := by
  cases event with
  | stored snapshot =>
      unfold CompilerEvent.happen CompilerStore.storeSnapshot
      dsimp only
      split
      · next sources inserted => exact .stored snapshot sources occurs inserted
      · exact .kept
  | compiled runId merchantId sourceId configurationDigest candidateIds =>
      exact recordRun_changes good runId merchantId sourceId configurationDigest candidateIds
  | fixture representation =>
      unfold CompilerEvent.happen CompilerStore.storeFixture
      dsimp only
      split
      · exact .kept
      · next checked =>
          simp only [not_or, not_not] at checked
          split
          · next representations inserted =>
              exact .fixture representation representations checked.1 checked.2.1 inserted
          · exact .kept

end Outside

theorem compilerSystem_keeps :
    System.Keeps compilerSystem compilerRegime compilerDiscipline where
  symmetric apart :=
    ⟨fun runId second first => apart.1 runId first second,
      fun merchantId second first => apart.2 merchantId first second⟩
  enterRelies call _ _ := by cases call <;> trivial
  enterApart call _ := by cases call <;> exact ⟨nofun, nofun⟩
  actShared input stage store good relies := by
    obtain ⟨_, changes, _⟩ := perform_changes good relies input
    exact good.changes changes
  actRelies input stage store next good relies goesOn := by
    refine perform_next good relies ?_
    change ((stage.perform input store).2).stage? = some next at goesOn
    cases isMove : (stage.perform input store).2 with
    | next stage =>
        rw [isMove] at goesOn
        cases goesOn
        rfl
    | returns | raises =>
        rw [isMove] at goesOn
        cases goesOn
  actOthers input stage store other good relies others apart := by
    obtain ⟨_, changes, holds⟩ := perform_changes good relies input
    exact others.beside (changes.beside fun runId isTouched => apart.1 runId (holds runId isTouched))
  actApart _ _ _ _ _ _ _ _ _ _ beside := beside
  outsideShared _ _ occurs good := good.changes (happen_changes good occurs)
  outsideOthers _ _ _ occurs good others :=
    others.beside ((happen_changes good occurs).beside nofun)

end Publishing

end AgentRank.Compiler
