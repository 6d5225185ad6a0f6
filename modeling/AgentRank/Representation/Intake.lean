import AgentRank.Representation.Canonical
import AgentRank.Compiler.Service
import Mathlib.Data.List.MinMax

/-!
# Taking source evidence in

This module models `submit` of `representation/intake.py` and `publish_source` of
`representation/service.py`, cut at each statement.  Both hold the source line of their merchant
from the statement that claims it until they commit, roll back or are gone.  The database numbers
the rows of the snapshots in the order in which it is asked to write them.
-/

namespace AgentRank.Representation

open Constraints Relational Store Transition

/-- A snapshot, with the order in which the database wrote it. -/
structure SnapshotRow extends Compiler.MerchantSourceSnapshot where
  writeOrder : Nat

inductive SourceOrigin
  | merchantConsole
  | merchantImport
deriving DecidableEq

structure MerchantSourceSubmission where
  id : Uuid
  merchantId : Uuid
  requestKey : String
  sourceSnapshotId : Uuid
  origin : SourceOrigin
  createdSnapshot : Bool
deriving DecidableEq

/-- A merchant, with the slug that its source documents name. -/
structure SourceMerchant where
  id : Uuid
  slug : String
deriving DecidableEq

instance : Keyed SnapshotRow Uuid := ⟨fun row => row.id⟩
instance : Keyed MerchantSourceSubmission Uuid := ⟨MerchantSourceSubmission.id⟩
instance : Keyed SourceMerchant Uuid := ⟨SourceMerchant.id⟩

/-- The tables, and the last number that was drawn for a snapshot. -/
structure IntakeStore where
  merchants : Table SourceMerchant
  snapshots : Table SnapshotRow
  submissions : Table MerchantSourceSubmission
  sequence : Nat

/-- `current`: the snapshot of a merchant that was written last. -/
def currentOf (rows : List SnapshotRow) (merchantId : Uuid) : Option SnapshotRow :=
  (rows.filter fun row => row.merchantId = merchantId).argmax SnapshotRow.writeOrder

/-- The versions under a key of a merchant. -/
def versionsOf (rows : List SnapshotRow) (merchantId : Uuid) (key : String) : List Int :=
  (rows.filter fun row => row.merchantId = merchantId && row.sourceKey = key).map
    fun row => row.sourceVersion

/-- `_next_version`. -/
def nextVersion (rows : List SnapshotRow) (merchantId : Uuid) (key : String) : Int :=
  match (versionsOf rows merchantId key).max? with
  | none => 1
  | some highest => highest + 1

namespace IntakeStore

def opening (merchants : Table SourceMerchant) : IntakeStore where
  merchants := merchants
  snapshots := .empty
  submissions := .empty
  sequence := 0

/-- The submission under a request key. -/
def submission? (store : IntakeStore) (merchantId : Uuid) (requestKey : String) :
    Option MerchantSourceSubmission :=
  store.submissions.rows.find? fun submission =>
    submission.merchantId = merchantId && submission.requestKey = requestKey

/-- `by_request_key`. -/
def settled? (store : IntakeStore) (merchantId : Uuid) (requestKey : String) :
    Option (MerchantSourceSubmission × SnapshotRow) :=
  (store.submission? merchantId requestKey).bind fun submission =>
    (store.snapshots.get? submission.sourceSnapshotId).map fun snapshot => (submission, snapshot)

def current (store : IntakeStore) (merchantId : Uuid) : Option SnapshotRow :=
  currentOf store.snapshots.rows merchantId

/-- `uq_source_version`. -/
def isTaken (store : IntakeStore) (merchantId : Uuid) (key : String) (version : Int) : Bool :=
  (versionsOf store.snapshots.rows merchantId key).contains version

/-- `MerchantSourceRepository.get`. -/
def snapshotAt (store : IntakeStore) (merchantId : Uuid) (key : String) (version : Int) :
    Option SnapshotRow :=
  store.snapshots.rows.find? fun row =>
    row.merchantId = merchantId && row.sourceKey = key && row.sourceVersion = version

end IntakeStore

/-- The largest version that its column holds. -/
def maxSourceVersion : Int := 2147483647

def holdsNul (text : String) : Bool :=
  text.toList.any fun char => char.toNat == 0

mutual

/-- The database refuses a text with a NUL character. -/
def Document.holdsNul : Document → Bool
  | .scalar (.text text) => Representation.holdsNul text
  | .scalar _ => false
  | .array items => itemsHoldNul items
  | .object fields => fieldsHoldNul fields

def itemsHoldNul : List Document → Bool
  | [] => false
  | item :: rest => item.holdsNul || itemsHoldNul rest

def fieldsHoldNul : Entry → Bool
  | [] => false
  | (key, value) :: rest => Representation.holdsNul key || value.holdsNul || fieldsHoldNul rest

end

/-- A row that its columns can hold. -/
def isStorable (definition : MerchantSourceDefinition) : Bool :=
  definition.version ≤ maxSourceVersion && !definition.payload.holdsNul

inductive IntakeFailure
  | service (failure : Failure)
  | dataError
deriving DecidableEq

def sourceResource : String := "merchant_source_snapshot"

def defaultSourceKey : String := "merchant-source"

/-- How many times one command resolves a version before it gives up. -/
def versionAttempts : Nat := 3

structure SubmitCall where
  merchantId : Uuid
  requestKey : String
  document : SourceDocumentInput
  origin : SourceOrigin := .merchantConsole
  baseSourceSnapshotId : Option Uuid := none

inductive IntakeCall
  | submit (call : SubmitCall)
  | publish (definition : Made MerchantSourceDefinition)

/-- What a submission carries from one statement to the next. -/
structure Submitting where
  call : SubmitCall
  merchantSlug : String
  submitted : String
  attempt : Nat

/-- Where a call stands: the statement it sends next. -/
inductive IntakeStage
  | readMerchant (call : SubmitCall)
  | readSettled (work : Submitting)
  /-- Wait for the source line of the merchant. -/
  | claimLine (work : Submitting)
  | readAgain (work : Submitting)
  | readCurrent (work : Submitting)
  | readVersion (work : Submitting) (current : Option SnapshotRow)
  | insertSnapshot (work : Submitting) (definition : Made MerchantSourceDefinition)
  /-- Write the submission beside the snapshot that was inserted, and commit. -/
  | recordCreated (work : Submitting) (definition : Made MerchantSourceDefinition)
      (writeOrder : Nat)
  | recordUnchanged (work : Submitting) (current : SnapshotRow)
  /-- Read the submission that was in the way, after the rollback. -/
  | readDuplicate (work : Submitting) (created : Bool)
  | retry (work : Submitting)
  | findMerchant (definition : Made MerchantSourceDefinition)
  | claimPublication (definition : Made MerchantSourceDefinition) (merchantId : Uuid)
  | readExisting (definition : Made MerchantSourceDefinition) (merchantId : Uuid)
  | insertPublication (definition : Made MerchantSourceDefinition) (merchantId : Uuid)
  | commitPublication (definition : Made MerchantSourceDefinition) (merchantId : Uuid)
      (writeOrder : Nat)
  | recoverPublication (definition : Made MerchantSourceDefinition) (merchantId : Uuid)

/-- The merchant whose source line a stage holds. -/
def IntakeStage.holdsLine : IntakeStage → Option Uuid
  | readAgain work | readCurrent work | readVersion work _ | insertSnapshot work _
  | recordCreated work _ _ | recordUnchanged work _ => some work.call.merchantId
  | readExisting _ merchantId | insertPublication _ merchantId
  | commitPublication _ merchantId _ => some merchantId
  | _ => none

/-- The identifiers that new rows are given. -/
structure IntakeInput where
  snapshotId : Uuid
  submissionId : Uuid

/-- What a statement leads to. -/
inductive IntakeMove
  | next (stage : IntakeStage)
  /-- `SubmissionOutcome`. -/
  | answers (submission : MerchantSourceSubmission) (snapshot : SnapshotRow)
  | publishes (snapshot : SnapshotRow)
  | raises (failure : IntakeFailure)

def IntakeMove.stage? : IntakeMove → Option IntakeStage
  | next stage => some stage
  | answers _ _ | publishes _ | raises _ => none

/-! ## Statement by statement -/

def sourceConflict (reason detail identifier : String) : IntakeMove :=
  .raises (.service (.conflict reason detail (some sourceResource) (some identifier)))

def unknownMerchant (identifier : String) : IntakeMove :=
  .raises (.service (.notFound "merchant" identifier))

def refuses (error : ValueError) : IntakeMove :=
  .raises (.service (.valueError error))

/-- `_same_request`. -/
def sameRequest (work : Submitting) (submission : MerchantSourceSubmission)
    (snapshot : SnapshotRow) : IntakeMove :=
  if evidenceText snapshot.payload ≠ work.submitted then
    sourceConflict "source_request_key_reused"
      "this submission key has already stored different source evidence" work.call.requestKey
  else .answers submission snapshot

/-- `_require_base`. -/
def requireBase (current : Option SnapshotRow) (base : Option Uuid) : Bool :=
  base.all fun stated => current.any fun snapshot => snapshot.id = stated

section Stages

variable (store : IntakeStore)

def readMerchant (call : SubmitCall) : IntakeMove :=
  match store.merchants.get? call.merchantId with
  | none => unknownMerchant (toString call.merchantId)
  | some merchant =>
      match call.document.evidence with
      | .error error => refuses error
      | .ok evidence =>
          .next (.readSettled
            { call := call
              merchantSlug := merchant.slug
              submitted := evidence.canonical
              attempt := 0 })

/-- The request key is read, and what it settled is answered. -/
def readSettled (work : Submitting) (goesOn : IntakeStage) : IntakeMove :=
  match store.settled? work.call.merchantId work.call.requestKey with
  | some (submission, snapshot) => sameRequest work submission snapshot
  | none => .next goesOn

def readCurrent (work : Submitting) : IntakeMove :=
  let current := store.current work.call.merchantId
  if requireBase current work.call.baseSourceSnapshotId then .next (.readVersion work current)
  else
    sourceConflict "source_superseded"
      ("Your merchant information has changed since this page was opened, so submitting this" ++
        " would write over evidence you have not seen. Reload to edit your current source.")
      (toString work.call.merchantId)

def readVersion (work : Submitting) (current : Option SnapshotRow) : IntakeMove :=
  let key := current.elim defaultSourceKey fun snapshot => snapshot.sourceKey
  match work.call.document.definition key
      (nextVersion store.snapshots.rows work.call.merchantId key) work.merchantSlug with
  | .error error => refuses error
  | .ok definition =>
      match current with
      | none => .next (.insertSnapshot work definition)
      | some snapshot =>
          if evidenceText snapshot.payload = work.submitted then
            .next (.recordUnchanged work snapshot)
          else .next (.insertSnapshot work definition)

/-- `MerchantSourceRepository.create`: the number is drawn when the row is inserted, and is
not given back. -/
def insertRow (definition : Made MerchantSourceDefinition) (merchantId : Uuid)
    (inserted : Nat → IntakeStage) (refused : IntakeStage) : IntakeStore × IntakeMove :=
  if !isStorable definition.fields then (store, .raises .dataError)
  else
    let writeOrder := store.sequence + 1
    ({ store with sequence := writeOrder },
      .next (if store.isTaken merchantId definition.fields.key definition.fields.version then
        refused
      else inserted writeOrder))

variable [FieldOrder] [ContentDigest]

/-- The row of a definition. -/
def snapshotRow (id merchantId : Uuid) (definition : Made MerchantSourceDefinition)
    (writeOrder : Nat) : SnapshotRow where
  id := id
  merchantId := merchantId
  sourceKey := definition.fields.key
  sourceVersion := definition.fields.version
  contentHash := definition.fields.contentHash
  payload := definition.fields.payload.stored
  writeOrder := writeOrder

/-- `_record`: the submission is written with the snapshot, or neither is. -/
def recordSubmission (input : IntakeInput) (work : Submitting) (snapshots : Table SnapshotRow)
    (snapshot : SnapshotRow) (created : Bool) (again : IntakeStage) : IntakeStore × IntakeMove :=
  let submission : MerchantSourceSubmission :=
    { id := input.submissionId
      merchantId := work.call.merchantId
      requestKey := work.call.requestKey
      sourceSnapshotId := snapshot.id
      origin := work.call.origin
      createdSnapshot := created }
  match store.submissions.insert? submission with
  | none => (store, .next again)
  | some submissions =>
      if (store.submission? submission.merchantId submission.requestKey).isSome ||
          (created && store.submissions.rows.any fun other =>
            other.createdSnapshot && other.sourceSnapshotId = snapshot.id) then
        (store, .next (.readDuplicate work created))
      else
        ({ store with snapshots := snapshots, submissions := submissions },
          .answers submission snapshot)

/-- An identifier that is taken is not drawn. -/
def recordCreated (input : IntakeInput) (work : Submitting)
    (definition : Made MerchantSourceDefinition) (writeOrder : Nat) : IntakeStore × IntakeMove :=
  let row := snapshotRow input.snapshotId work.call.merchantId definition writeOrder
  match store.snapshots.insert? row with
  | none => (store, .next (.recordCreated work definition writeOrder))
  | some snapshots =>
      recordSubmission store input work snapshots row true
        (.recordCreated work definition writeOrder)

def readDuplicate (work : Submitting) (created : Bool) : IntakeMove :=
  match store.settled? work.call.merchantId work.call.requestKey with
  | some (submission, snapshot) => sameRequest work submission snapshot
  | none =>
      if created then .next (.retry work)
      else .raises (.service (.integrityError "uq_merchant_source_submission_request"))

/-- The version is resolved again, until the attempts are used up. -/
def retry (work : Submitting) : IntakeMove :=
  match store.merchants.get? work.call.merchantId with
  | none => unknownMerchant (toString work.call.merchantId)
  | some _ =>
      if work.attempt + 1 = versionAttempts then
        sourceConflict "source_version_conflict"
          "another writer is publishing source snapshots for this merchant"
          (toString work.call.merchantId)
      else .next (.claimLine { work with attempt := work.attempt + 1 })

def findMerchant (definition : Made MerchantSourceDefinition) : IntakeMove :=
  match store.merchants.rows.find? fun merchant =>
      merchant.slug = definition.fields.merchantSlug with
  | none => unknownMerchant definition.fields.merchantSlug
  | some merchant => .next (.claimPublication definition merchant.id)

def definitionChanged (definition : MerchantSourceDefinition) : IntakeMove :=
  .raises (.service (.conflict "source_definition_changed"
    (definition.key ++ "@" ++ toString definition.version) none none))

/-- The snapshot under the name of a definition is answered, when it is the same. -/
def readExisting (definition : Made MerchantSourceDefinition) (merchantId : Uuid)
    (absent : IntakeMove) : IntakeMove :=
  match store.snapshotAt merchantId definition.fields.key definition.fields.version with
  | none => absent
  | some existing =>
      if existing.contentHash ≠ definition.fields.contentHash then
        definitionChanged definition.fields
      else .publishes existing

def commitPublication (input : IntakeInput) (definition : Made MerchantSourceDefinition)
    (merchantId : Uuid) (writeOrder : Nat) : IntakeStore × IntakeMove :=
  let row := snapshotRow input.snapshotId merchantId definition writeOrder
  match store.snapshots.insert? row with
  | none => (store, .next (.commitPublication definition merchantId writeOrder))
  | some snapshots => ({ store with snapshots := snapshots }, .publishes row)

/-- What a stage does, and where it leads. -/
def IntakeStage.perform (input : IntakeInput) : IntakeStage → IntakeStore → IntakeStore × IntakeMove
  | .readMerchant call, store => (store, Representation.readMerchant store call)
  | .readSettled work, store => (store, Representation.readSettled store work (.claimLine work))
  | .claimLine work, store => (store, .next (.readAgain work))
  | .readAgain work, store => (store, Representation.readSettled store work (.readCurrent work))
  | .readCurrent work, store => (store, Representation.readCurrent store work)
  | .readVersion work current, store => (store, Representation.readVersion store work current)
  | .insertSnapshot work definition, store =>
      insertRow store definition work.call.merchantId (.recordCreated work definition) (.retry work)
  | .recordCreated work definition writeOrder, store =>
      Representation.recordCreated store input work definition writeOrder
  | .recordUnchanged work current, store =>
      recordSubmission store input work store.snapshots current false
        (.recordUnchanged work current)
  | .readDuplicate work created, store =>
      (store, Representation.readDuplicate store work created)
  | .retry work, store => (store, Representation.retry store work)
  | .findMerchant definition, store => (store, Representation.findMerchant store definition)
  | .claimPublication definition merchantId, store =>
      (store, .next (.readExisting definition merchantId))
  | .readExisting definition merchantId, store =>
      (store, Representation.readExisting store definition merchantId
        (.next (.insertPublication definition merchantId)))
  | .insertPublication definition merchantId, store =>
      insertRow store definition merchantId (.commitPublication definition merchantId)
        (.recoverPublication definition merchantId)
  | .commitPublication definition merchantId writeOrder, store =>
      Representation.commitPublication store input definition merchantId writeOrder
  | .recoverPublication definition merchantId, store =>
      (store, Representation.readExisting store definition merchantId
        (definitionChanged definition.fields))

end Stages

section System

variable [FieldOrder] [ContentDigest]

def IntakeCall.enter : IntakeCall → IntakeStage
  | submit call => .readMerchant call
  | publish definition => .findMerchant definition

/-- Any number of clients submit evidence and publish documents. -/
def intakeSystem : System IntakeStore IntakeCall IntakeStage IntakeInput Empty where
  enter := IntakeCall.enter
  act input stage store := ((stage.perform input store).1, (stage.perform input store).2.stage?)
  outside := nofun

/-- A source line is held by one client at a time. -/
def sourceLines : System.Regime IntakeStage Empty where
  beside next other :=
    ∀ merchantId, next.holdsLine = some merchantId → other.holdsLine ≠ some merchantId
  occurs := nofun

end System

end AgentRank.Representation
