import AgentRank.Compiler.Assembly
import AgentRank.Transition.Clients

/-!
# Reviews and publications

This module models `review` and `publish` of `compiler/service.py`, cut at each statement,
since every statement reads what is committed when it runs.  A review locks the row of its run
first; a publication holds the publication line of its merchant, and then the row of its run.
Both locks are held until the call commits or is gone.
-/

namespace AgentRank.Compiler

open Constraints Relational Representation Store Text Transition

/-- A snapshot, with its payload as the database gives it back. -/
structure MerchantSourceSnapshot where
  id : Uuid
  merchantId : Uuid
  sourceKey : String
  sourceVersion : Int
  contentHash : ContentHash
  payload : Document

structure CompilerRun where
  id : Uuid
  merchantId : Uuid
  sourceSnapshotId : Uuid
  configurationDigest : ContentHash
  status : CompilerRunStatus
  publishedRepresentationId : Option Uuid := none
deriving DecidableEq

structure CommerceRepresentation where
  id : Uuid
  merchantId : Uuid
  sourceSnapshotId : Uuid
  compilerRunId : Option Uuid
  producer : RepresentationProducer
  producerVersion : String
  definition : Made CommerceIRDefinition
deriving DecidableEq

instance : Keyed MerchantSourceSnapshot Uuid := ⟨MerchantSourceSnapshot.id⟩
instance : Keyed CompilerRun Uuid := ⟨CompilerRun.id⟩
instance : Keyed CompilerCandidate Uuid := ⟨CompilerCandidate.id⟩
instance : Keyed CompilerReview Uuid := ⟨CompilerReview.id⟩
instance : Keyed CommerceRepresentation Uuid := ⟨CommerceRepresentation.id⟩

structure CompilerStore where
  sources : Table MerchantSourceSnapshot
  runs : Table CompilerRun
  candidates : Table CompilerCandidate
  reviews : Table CompilerReview
  representations : Table CommerceRepresentation

namespace CompilerStore

def empty : CompilerStore where
  sources := .empty
  runs := .empty
  candidates := .empty
  reviews := .empty
  representations := .empty

/-- `get_run` and `_run_for_update`. -/
def run? (store : CompilerStore) (merchantId runId : Uuid) : Option CompilerRun :=
  (store.runs.get? runId).filter fun run => run.merchantId = merchantId

/-- `_source`. -/
def source? (store : CompilerStore) (merchantId sourceId : Uuid) : Option MerchantSourceSnapshot :=
  (store.sources.get? sourceId).filter fun source => source.merchantId = merchantId

/-- `candidates`. -/
def candidatesOf (store : CompilerStore) (run : CompilerRun) : List CompilerCandidate :=
  (store.candidates.rows.filter fun candidate =>
    candidate.runId = run.id && candidate.merchantId = run.merchantId).mergeSort
      fun first second => decide (first.target ≤ second.target)

/-- The review of a candidate, among those of its run. -/
def reviewOf (store : CompilerStore) (runId candidateId : Uuid) : Option CompilerReview :=
  store.reviews.rows.find? fun review =>
    review.runId = runId && review.candidateId = candidateId

/-- The review of a candidate. -/
def existingReview (store : CompilerStore) (candidateId : Uuid) : Option CompilerReview :=
  store.reviews.rows.find? fun review => review.candidateId = candidateId

/-- The candidates that wait for a review. -/
def unresolved (store : CompilerStore) (run : CompilerRun) : List CompilerCandidate :=
  (store.candidatesOf run).filter fun candidate =>
    candidate.state = .reviewRequired && (store.reviewOf run.id candidate.id).isNone

end CompilerStore

def notFound (resource : String) (identifier : Uuid) : CompilerFailure :=
  .service (.notFound resource (toString identifier))

def conflict (reason detail : String) : CompilerFailure :=
  .service (.conflict reason detail none none)

def valueFailure (message : String) : CompilerFailure :=
  .service (.valueError { message := message })

/-! ## Checking a review -/

/-- `rsplit(".", maxsplit=1)[-1]`. -/
def lastSegment (target : String) : String :=
  String.ofList (target.toList.rtakeWhile (· != '.'))

/-- A value that a set can hold. -/
def isHashable : Value → Bool
  | .price _ _ => false
  | .other json => !(json.toList.head?.any fun char => char == '[' || char == '\x7b')
  | _ => true

/-- `_validate_target_value`. -/
def validateTargetValue (proposal : CandidateProposal) : Except CompilerFailure Unit :=
  match proposal.attributeKind with
  | some kind => do
      let stated : CommerceAttribute :=
        { key := lastSegment proposal.target
          kind := kind
          fact := proposal.fact
          unit := proposal.unit }
      let _ ← constructing (make stated)
      return ()
  | none =>
      if !decide (".compatibility.".toList <:+: proposal.target.toList) then .ok ()
      else if !isHashable proposal.fact.fields.value then .error (.typeError "unhashable type")
      else if isValueState proposal.fact.fields.value then .ok ()
      else .error (valueFailure "compatibility corrections need a four-state value")

/-- How a value is written into a text. -/
def formatValue : Value → String
  | .null => "None"
  | .text written => written
  | .integer value => toString value
  | .boolean value => if value then "True" else "False"
  | .price amountMinor currency =>
      "\x7b'amount_minor': " ++ toString amountMinor ++ ", 'currency': '" ++ currency ++ "'\x7d"
  | .other json => json

section Reviews

variable [CharacterTables]

/-- The measurement stands in the text that a reference names, whatever its blanks. -/
def isEvidence (source : MerchantSourceDefinition) (expected : String)
    (reference : SourceReference) : Except CompilerFailure Bool :=
  match (sourceFields source).get? reference.field with
  | none => .error (.keyError reference.field)
  | some text =>
      .ok (decide ((lower expected).toList <:+:
        (lower (String.ofList (text.toList.filter (· != ' ')))).toList))

/-- The first of some references that is evidence. -/
def anyEvidence (source : MerchantSourceDefinition) (expected : String) :
    List (Made SourceReference) → Except CompilerFailure Bool
  | [] => .ok false
  | reference :: rest => do
      if ← isEvidence source expected reference.fields then return true
      anyEvidence source expected rest

/-- `_validate_correction_evidence`. -/
def validateCorrectionEvidence (proposal : CandidateProposal) (source : MerchantSourceDefinition) :
    Except CompilerFailure Unit :=
  if proposal.attributeKind ≠ some .measurement then .ok ()
  else do
    let expected := formatValue proposal.fact.fields.value ++ proposal.unit.getD "None"
    if ← anyEvidence source expected proposal.fact.fields.provenance then return ()
    throw (valueFailure "measurement correction value is not supported by cited source evidence")

/-- The checks of a correction. -/
def validateCorrection (candidate : CompilerCandidate) (correction : Option (Made CandidateProposal))
    (payload : Except CompilerFailure Document) : Except CompilerFailure Unit := do
  let original := candidate.proposal.fields
  match correction with
  | none => throw (valueFailure "a correction must replace the same candidate target")
  | some made =>
      let corrected := made.fields
      if corrected.target ≠ candidate.target then
        throw (valueFailure "a correction must replace the same candidate target")
      if corrected.attributeKind ≠ original.attributeKind ∨ corrected.unit ≠ original.unit ∨
          corrected.requiresCorrection = true then
        throw (valueFailure "a correction must preserve the candidate type and unit")
      if corrected.fact.fields.authority ≠ .derived ∨ corrected.fact.fields.confidence ≠ .high ∨
          corrected.fact.fields.reviewState ≠ .confirmed then
        throw (valueFailure "a correction must be derived, high confidence, and confirmed")
      validateTargetValue corrected
      let source ← constructing (parseSource (← payload))
      constructing (validateCandidates source.fields [(made, .accepted)])
      validateCorrectionEvidence corrected source.fields

/-- The checks of a review that depend on its candidate. -/
def validateReview (candidate : CompilerCandidate) (decision : ReviewDecision)
    (correction : Option (Made CandidateProposal)) (payload : Except CompilerFailure Document) :
    Except CompilerFailure Unit :=
  if candidate.state ≠ .reviewRequired then
    .error (conflict "candidate_does_not_require_review" candidate.target)
  else if decision = .accept ∧ candidate.proposal.fields.requiresCorrection = true then
    .error (conflict "candidate_requires_correction" candidate.target)
  else if decision = .correct then validateCorrection candidate correction payload
  else if correction.isSome then
    .error (valueFailure "only a correction review may carry corrected fact data")
  else .ok ()

end Reviews

/-! ## Statement by statement -/

structure ReviewCall where
  merchantId : Uuid
  candidateId : Uuid
  decision : ReviewDecision
  correction : Option (Made CandidateProposal) := none
  reviewer : String := "SYSTEM"

structure PublishCall where
  merchantId : Uuid
  runId : Uuid

inductive CompilerCall
  | review (call : ReviewCall)
  | publish (call : PublishCall)

/-- Where a call stands: the statement it sends next. -/
inductive CompilerStage
  /-- Wait for the row of the run that a candidate is of. -/
  | lockReview (call : ReviewCall)
  | readPublished (call : ReviewCall) (candidate : CompilerCandidate)
  | checkReview (call : ReviewCall) (candidate : CompilerCandidate)
  | readReview (call : ReviewCall) (candidate : CompilerCandidate)
  /-- Write the review and commit. -/
  | writeReview (call : ReviewCall) (candidate : CompilerCandidate)
  /-- Wait for the publication line of the merchant. -/
  | claimPublication (call : PublishCall)
  /-- Wait for the row of the run. -/
  | lockRun (call : PublishCall)
  | readSource (run : CompilerRun)
  | readCandidates (run : CompilerRun) (snapshot : MerchantSourceSnapshot)
      (source : Made MerchantSourceDefinition)
  | readReviews (run : CompilerRun) (snapshot : MerchantSourceSnapshot)
      (source : Made MerchantSourceDefinition) (candidates : List CompilerCandidate)
  /-- Write the representation and the run that names it, and commit. -/
  | writeRepresentation (run : CompilerRun) (snapshot : MerchantSourceSnapshot)
      (definition : Made CommerceIRDefinition)
  /-- Read the representation that was in the way, after the rollback. -/
  | recover (run : CompilerRun) (snapshot : MerchantSourceSnapshot)

/-- The run whose row a stage has locked. -/
def CompilerStage.holdsRun : CompilerStage → Option Uuid
  | readPublished _ candidate | checkReview _ candidate | readReview _ candidate
  | writeReview _ candidate => some candidate.runId
  | readSource run | readCandidates run _ _ | readReviews run _ _ _
  | writeRepresentation run _ _ => some run.id
  | _ => none

/-- The merchant whose publication line a stage holds. -/
def CompilerStage.holdsLine : CompilerStage → Option Uuid
  | lockRun call => some call.merchantId
  | readSource run | readCandidates run _ _ | readReviews run _ _ _
  | writeRepresentation run _ _ => some run.merchantId
  | _ => none

/-- The identifier that a new row is given. -/
structure CompilerInput where
  newId : Uuid

/-- What a statement leads to. -/
inductive CompilerMove
  | next (stage : CompilerStage)
  | returns (id : Uuid)
  | raises (failure : CompilerFailure)

def CompilerMove.stage? : CompilerMove → Option CompilerStage
  | next stage => some stage
  | returns _ | raises _ => none

namespace CompilerStore

/-- A review that is written keeps the constraints of its table. -/
def insertReview (store : CompilerStore) (review : CompilerReview) :
    Option (Except CompilerFailure CompilerStore) :=
  match store.reviews.insert? review with
  | none => none
  | some reviews =>
      if (store.existingReview review.candidateId).isSome then
        some (.error (.service (.integrityError "uq_compiler_review_candidate")))
      else if decide (review.decision = .correct) ≠ review.correction.isSome then
        some (.error (.service (.integrityError "correction_matches_decision")))
      else some (.ok { store with reviews := reviews })

/-- The representation that a compiler has made of a snapshot. -/
def existingRepresentation (store : CompilerStore) (merchantId snapshotId : Uuid)
    (producerVersion : String) : Option CommerceRepresentation :=
  store.representations.rows.find? fun representation =>
    representation.merchantId = merchantId && representation.sourceSnapshotId = snapshotId &&
      representation.producer = .compiler && representation.producerVersion = producerVersion

/-- `uq_representation_producer`. -/
def isTaken (store : CompilerStore) (representation : CommerceRepresentation) : Bool :=
  store.representations.rows.any fun other =>
    other.sourceSnapshotId = representation.sourceSnapshotId &&
      other.producer = representation.producer &&
        other.producerVersion = representation.producerVersion

end CompilerStore

/-- The refusals of `CommerceRepresentationRepository.create`. -/
def representationRefusal (run : CompilerRun) (snapshot : MerchantSourceSnapshot)
    (definition : CommerceIRDefinition) : Option String :=
  if (snapshot.sourceKey, snapshot.sourceVersion, snapshot.contentHash) ≠
      (definition.sourceKey, definition.sourceVersion, definition.sourceHash) then
    some "Commerce IR must name the exact source snapshot it was derived from"
  else if definition.producer ≠ .compiler then
    some "compiler Commerce IR requires its compiler run"
  else if run.merchantId ≠ snapshot.merchantId ∨ run.sourceSnapshotId ≠ snapshot.id ∨
      run.configurationDigest.text ≠ definition.producerVersion then
    some "compiler Commerce IR does not match its compiler run"
  else none

section Stages

variable (store : CompilerStore)

/-- A statement that only reads. -/
def CompilerStore.reads (move : CompilerMove) : CompilerStore × CompilerMove :=
  (store, move)

def lockReview (call : ReviewCall) : CompilerMove :=
  match (store.candidates.get? call.candidateId).filter fun candidate =>
      candidate.merchantId = call.merchantId &&
        (store.run? call.merchantId candidate.runId).isSome with
  | none => .raises (notFound "compiler_candidate" call.candidateId)
  | some candidate => .next (.readPublished call candidate)

def readPublished (call : ReviewCall) (candidate : CompilerCandidate) : CompilerMove :=
  match store.run? call.merchantId candidate.runId with
  | none => .raises (notFound "compiler_run" candidate.runId)
  | some run =>
      if run.publishedRepresentationId.isSome then
        .raises (conflict "compiler_run_already_published" (toString run.id))
      else .next (.checkReview call candidate)

/-- The payload that a correction is checked against. -/
def CompilerStore.payloadOfRun (merchantId runId : Uuid) : Except CompilerFailure Document :=
  match store.run? merchantId runId with
  | none => .error (notFound "compiler_run" runId)
  | some run =>
      match store.source? merchantId run.sourceSnapshotId with
      | none => .error (notFound "merchant_source_snapshot" run.sourceSnapshotId)
      | some snapshot => .ok snapshot.payload

def checkReview [CharacterTables] (call : ReviewCall) (candidate : CompilerCandidate) :
    CompilerMove :=
  match validateReview candidate call.decision call.correction
      (store.payloadOfRun call.merchantId candidate.runId) with
  | .error failure => .raises failure
  | .ok () => .next (.readReview call candidate)

def readReview (call : ReviewCall) (candidate : CompilerCandidate) : CompilerMove :=
  match store.existingReview candidate.id with
  | none => .next (.writeReview call candidate)
  | some existing =>
      if existing.decision = call.decision ∧ existing.correction = call.correction then
        .returns existing.id
      else .raises (conflict "candidate_already_reviewed" candidate.target)

/-- An identifier that is taken is not drawn. -/
def writeReview (input : CompilerInput) (call : ReviewCall) (candidate : CompilerCandidate) :
    CompilerStore × CompilerMove :=
  let row : CompilerReview :=
    { id := input.newId
      merchantId := call.merchantId
      runId := candidate.runId
      candidateId := candidate.id
      decision := call.decision
      correction := call.correction
      reviewer := call.reviewer }
  match store.insertReview row with
  | none => (store, .next (.writeReview call candidate))
  | some (.error failure) => (store, .raises failure)
  | some (.ok written) => (written, .returns row.id)

def lockRun (call : PublishCall) : CompilerMove :=
  match store.run? call.merchantId call.runId with
  | none => .raises (notFound "compiler_run" call.runId)
  | some run =>
      if run.status ≠ .completed then
        .raises (conflict "compiler_run_not_completed" (toString call.runId))
      else
        match run.publishedRepresentationId with
        | none => .next (.readSource run)
        | some representationId =>
            match (store.representations.get? representationId).filter fun representation =>
                representation.merchantId = call.merchantId with
            | some representation => .returns representation.id
            | none =>
                .raises (.runtimeError "compiler run names a missing published representation")

def readSource (run : CompilerRun) : CompilerMove :=
  match store.source? run.merchantId run.sourceSnapshotId with
  | none => .raises (notFound "merchant_source_snapshot" run.sourceSnapshotId)
  | some snapshot =>
      match parseSource snapshot.payload with
      | .error error => .raises (.service (.valueError error))
      | .ok source => .next (.readCandidates run snapshot source)

def readReviews (run : CompilerRun) (snapshot : MerchantSourceSnapshot)
    (source : Made MerchantSourceDefinition) (candidates : List CompilerCandidate) :
    CompilerMove :=
  let waiting := candidates.filter fun candidate =>
    candidate.state = .reviewRequired && (store.reviewOf run.id candidate.id).isNone
  if waiting ≠ [] then
    .raises (conflict "compiler_review_required"
      (String.intercalate ", " (waiting.map CompilerCandidate.target)))
  else
    match representationOf source.fields snapshot.contentHash run.configurationDigest candidates
        (store.reviewOf run.id) with
    | .error failure => .raises failure
    | .ok definition => .next (.writeRepresentation run snapshot definition)

/-- The representation and the run that names it are written together. -/
def writeRepresentation (input : CompilerInput) (run : CompilerRun)
    (snapshot : MerchantSourceSnapshot) (definition : Made CommerceIRDefinition) :
    CompilerStore × CompilerMove :=
  match representationRefusal run snapshot definition.fields with
  | some message => (store, .raises (valueFailure message))
  | none =>
      let row : CommerceRepresentation :=
        { id := input.newId
          merchantId := snapshot.merchantId
          sourceSnapshotId := snapshot.id
          compilerRunId := some run.id
          producer := .compiler
          producerVersion := definition.fields.producerVersion
          definition := definition }
      match store.representations.insert? row with
      | none => (store, .next (.writeRepresentation run snapshot definition))
      | some representations =>
          if store.isTaken row then (store, .next (.recover run snapshot))
          else
            ({ store with
                representations := representations
                runs := store.runs.set { run with publishedRepresentationId := some row.id } },
              .returns row.id)

def recover (run : CompilerRun) (snapshot : MerchantSourceSnapshot) : CompilerMove :=
  match store.existingRepresentation run.merchantId snapshot.id run.configurationDigest.text with
  | some existing => .returns existing.id
  | none => .raises (conflict "compiler_representation_conflict" (toString run.id))

/-- What a stage does, and where it leads. -/
def CompilerStage.perform [CharacterTables] (input : CompilerInput) :
    CompilerStage → CompilerStore → CompilerStore × CompilerMove
  | .lockReview call, store => store.reads (Compiler.lockReview store call)
  | .readPublished call candidate, store =>
      store.reads (Compiler.readPublished store call candidate)
  | .checkReview call candidate, store => store.reads (Compiler.checkReview store call candidate)
  | .readReview call candidate, store => store.reads (Compiler.readReview store call candidate)
  | .writeReview call candidate, store => Compiler.writeReview store input call candidate
  | .claimPublication call, store => store.reads (.next (.lockRun call))
  | .lockRun call, store => store.reads (Compiler.lockRun store call)
  | .readSource run, store => store.reads (Compiler.readSource store run)
  | .readCandidates run snapshot source, store =>
      store.reads (.next (.readReviews run snapshot source (store.candidatesOf run)))
  | .readReviews run snapshot source candidates, store =>
      store.reads (Compiler.readReviews store run snapshot source candidates)
  | .writeRepresentation run snapshot definition, store =>
      Compiler.writeRepresentation store input run snapshot definition
  | .recover run snapshot, store => store.reads (Compiler.recover store run snapshot)

end Stages

/-! ## The system -/

/-- What happens beside reviews and publications: a source document is stored, a run is
recorded over one, and an operator publishes a representation of its own. -/
inductive CompilerEvent
  | stored (snapshot : MerchantSourceSnapshot)
  | compiled (runId merchantId sourceId : Uuid) (configurationDigest : ContentHash)
      (candidateIds : List Uuid)
  | fixture (representation : CommerceRepresentation)

section System

variable [CharacterTables] [ContentDigest]

namespace CompilerStore

/-- The rows of the candidates of a run. -/
def candidateRows (run : CompilerRun) (candidateIds : List Uuid)
    (proposed : List (Made CandidateProposal × CandidateState)) : List CompilerCandidate :=
  (candidateIds.zip proposed).map fun row =>
    { id := row.1
      merchantId := run.merchantId
      runId := run.id
      target := row.2.1.fields.target
      proposal := row.2.1
      state := row.2.2 }

/-- `run`: nothing is written until the outcome is known, and then the run and its candidates
are written together.  The second run over one input answers with the first. -/
def recordRun (store : CompilerStore) (runId merchantId sourceId : Uuid)
    (configurationDigest : ContentHash) (candidateIds : List Uuid) : CompilerStore :=
  match store.source? merchantId sourceId with
  | none => store
  | some snapshot =>
      if store.runs.rows.any fun run =>
          run.sourceSnapshotId = sourceId && run.configurationDigest = configurationDigest then store
      else
        let outcome := compile snapshot.payload snapshot.contentHash
        let targets := outcome.2.map fun candidate => candidate.1.fields.target
        let run : CompilerRun :=
          { id := runId
            merchantId := merchantId
            sourceSnapshotId := sourceId
            configurationDigest := configurationDigest
            status := outcome.1 }
        if candidateIds.length ≠ outcome.2.length ∨ ¬ targets.Nodup ∨
            targets.any (fun target => maxTargetLength < target.length) then store
        else
          match store.runs.insert? run,
              store.candidates.insertAll? (candidateRows run candidateIds outcome.2) with
          | some runs, some candidates => { store with runs := runs, candidates := candidates }
          | _, _ => store

def storeSnapshot (store : CompilerStore) (snapshot : MerchantSourceSnapshot) : CompilerStore :=
  match store.sources.insert? snapshot with
  | some sources => { store with sources := sources }
  | none => store

def storeFixture (store : CompilerStore) (representation : CommerceRepresentation) :
    CompilerStore :=
  if representation.producer ≠ .manualFixture ∨ representation.compilerRunId ≠ none ∨
      store.isTaken representation then store
  else
    match store.representations.insert? representation with
    | some representations => { store with representations := representations }
    | none => store

end CompilerStore

def CompilerEvent.happen : CompilerEvent → CompilerStore → CompilerStore
  | stored snapshot, store => store.storeSnapshot snapshot
  | compiled runId merchantId sourceId configurationDigest candidateIds, store =>
      store.recordRun runId merchantId sourceId configurationDigest candidateIds
  | fixture representation, store => store.storeFixture representation

def CompilerCall.enter : CompilerCall → CompilerStage
  | review call => .lockReview call
  | publish call => .claimPublication call

/-- Any number of clients review and publish. -/
def compilerSystem :
    System CompilerStore CompilerCall CompilerStage CompilerInput CompilerEvent where
  enter := CompilerCall.enter
  act input stage store := ((stage.perform input store).1, (stage.perform input store).2.stage?)
  outside := CompilerEvent.happen

/-- The snapshot of a source document. -/
structure MerchantSourceSnapshot.Holds [FieldOrder] (snapshot : MerchantSourceSnapshot)
    (source : Made MerchantSourceDefinition) : Prop where
  sourceKey : snapshot.sourceKey = source.fields.key
  sourceVersion : snapshot.sourceVersion = source.fields.version
  contentHash : snapshot.contentHash = source.fields.contentHash
  payload : snapshot.payload = source.fields.payload.stored

/-- A lock is held by one client at a time, and what is stored was accepted. -/
def compilerRegime [FieldOrder] : System.Regime CompilerStage CompilerEvent where
  beside next other :=
    (∀ runId, next.holdsRun = some runId → other.holdsRun ≠ some runId) ∧
      ∀ merchantId, next.holdsLine = some merchantId → other.holdsLine ≠ some merchantId
  occurs
    | .stored snapshot => ∃ source, AcceptedSource source ∧ snapshot.Holds source
    | _ => True

end System

end AgentRank.Compiler
