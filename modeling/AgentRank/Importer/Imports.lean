import AgentRank.Representation.Intake
import AgentRank.Store.Hexadecimal

/-!
# Imports of a merchant's pages

This module models `run` and `confirm` of `importer/service.py`, cut at each statement, beside
the intake that a confirmation submits through.  An import is fetched and written once; its
confirmation submits its document under a key that is derived from the import, and links it to
the snapshot in a statement of its own.

What is fetched, and how a draft is read and written as a document, are parameters: the
commands only pass them on.
-/

namespace AgentRank.Importer

open Constraints Relational Representation Store Transition

inductive PageKind
  | product
  | policy
deriving DecidableEq

/-- One URL a merchant named, and what they said it is. -/
structure RequestedPage where
  url : String
  kind : PageKind
  name : Option String
deriving DecidableEq

/-- A validated address, normalized. -/
structure ImportTarget where
  text : String
  origin : String
deriving DecidableEq

structure RefusedTarget where
  reason : String
  detail : String
  url : Option String := none
deriving DecidableEq

/-- `validate_target`, under the policy of the deployment. -/
class TargetValidation where
  validate : String → Except RefusedTarget ImportTarget

def maxImportPages : Nat := 12

def maxImportUrlLength : Nat := 400

section Targets

variable [TargetValidation]

/-- The loop of `_targets`, with the origin and the addresses that it has seen. -/
def targetsFrom (origin : Option String) (seen : List String) :
    List RequestedPage → Except RefusedTarget (List (ImportTarget × RequestedPage))
  | [] => .ok []
  | page :: rest =>
      if maxImportUrlLength < page.url.length then
        .error
          { reason := "url_too_long"
            detail := s!"a merchant page URL may be at most {maxImportUrlLength} characters"
            url := some page.url }
      else
        match TargetValidation.validate page.url with
        | .error refused => .error { refused with url := some page.url }
        | .ok target =>
            if maxImportUrlLength < target.text.length then
              .error
                { reason := "url_too_long"
                  detail := s!"that URL is longer than {maxImportUrlLength} characters once AgentRank has normalized it"
                  url := some page.url }
            else if origin.any fun earlier => earlier ≠ target.origin then
              .error
                { reason := "several_origins"
                  detail := "every page in one import must be on the same storefront origin"
                  url := some page.url }
            else if seen.contains target.text then
              .error
                { reason := "duplicate_page"
                  detail := "the same URL is named more than once in this import"
                  url := some page.url }
            else
              (targetsFrom (some (origin.getD target.origin)) (target.text :: seen) rest).map
                fun targets => (target, page) :: targets

/-- `_targets`. -/
def targetsOf (pages : List RequestedPage) :
    Except RefusedTarget (List (ImportTarget × RequestedPage)) :=
  if pages.isEmpty then
    .error { reason := "no_pages", detail := "an import must name at least one page" }
  else if maxImportPages < pages.length then
    .error
      { reason := "too_many_pages"
        detail := s!"an import may name at most {maxImportPages} pages" }
  else targetsFrom none [] pages

end Targets

/-- A page as an import record names it. -/
structure PageRecord where
  url : String
  kind : PageKind
  name : Option String
deriving DecidableEq

/-- What the records of an import name, in the order of its targets. -/
def pagesOf (targets : List (ImportTarget × RequestedPage)) : List PageRecord :=
  targets.map fun target =>
    { url := target.1.text, kind := target.2.kind, name := target.2.name }

inductive ImportState
  | completed
  | failed
deriving DecidableEq

/-- `SourceDraft`, as far as a command reads it. -/
class SourceDrafts (δ : Type) where
  empty : δ
  productCount : δ → Nat
  variantCount : δ → Nat
  /-- The document of a draft, when its schema takes it. -/
  document : δ → Except ValueError SourceDocumentInput

/-- The two columns that are written together. -/
structure Confirmation where
  sourceSnapshotId : Uuid
  confirmedAt : Instant
deriving DecidableEq

structure MerchantSourceImport (δ : Type) where
  id : Uuid
  merchantId : Uuid
  requestKey : String
  origin : String
  state : ImportState
  failureReason : Option String
  pages : List PageRecord
  draft : δ
  confirmation : Option Confirmation

variable {δ : Type}

instance : Keyed (MerchantSourceImport δ) Uuid where
  key record := record.id

structure ImportRequest where
  merchantId : Uuid
  requestKey : String
  pages : List RequestedPage

/-- What a caller of `confirm` is told: the link of the import that was read back, and the
snapshot of the submission. -/
structure ConfirmationAnswer where
  importId : Uuid
  linked : Option Uuid
  snapshotId : Uuid
  alreadyConfirmed : Bool
deriving DecidableEq

/-- The tables, and what was fetched, linked and answered so far. -/
structure ImportStore (δ : Type) where
  intake : IntakeStore
  imports : Table (MerchantSourceImport δ)
  fetches : List ImportRequest := []
  links : List (Uuid × Uuid) := []
  answers : List ConfirmationAnswer := []

namespace ImportStore

/-- `_by_request_key`. -/
def byRequestKey (store : ImportStore δ) (merchantId : Uuid) (requestKey : String) :
    Option (MerchantSourceImport δ) :=
  store.imports.rows.find? fun record =>
    record.merchantId = merchantId && record.requestKey = requestKey

/-- `read`. -/
def read (store : ImportStore δ) (merchantId importId : Uuid) :
    Option (MerchantSourceImport δ) :=
  (store.imports.get? importId).filter fun record => record.merchantId = merchantId

end ImportStore

structure ImportBlocker where
  code : String
  detail : String
deriving DecidableEq

/-- `blockers_for`. -/
def blockersFor [SourceDrafts δ] (record : MerchantSourceImport δ) : List ImportBlocker :=
  if record.state = .failed then
    [{ code := "import_failed"
       detail := "this import did not finish, so there is nothing to confirm" }]
  else
    (if SourceDrafts.productCount record.draft = 0 then
      [{ code := "no_products"
         detail := "no product could be imported from these pages, so there is no source to create" }]
     else []) ++
    (if maxProducts < SourceDrafts.productCount record.draft then
      [{ code := "too_many_products"
         detail := "this import found more products than a source holds" }]
     else []) ++
    (if maxTotalVariants < SourceDrafts.variantCount record.draft then
      [{ code := "too_many_variants"
         detail := "this import found more variants than a source holds" }]
     else [])

/-- `submission_key`. -/
def submissionKey (importId : Uuid) : String :=
  "import-" ++ String.ofList (hexOf importId)

/-! ## Calls -/

inductive ImportCall
  | confirm (merchantId importId : Uuid)
  | start (request : ImportRequest)
  /-- The console and the operator write to the same source. -/
  | intake (call : IntakeCall)

/-- Where a call stands: the statement it sends next. -/
inductive ImportStage (δ : Type)
  | readImport (merchantId importId : Uuid)
  | readSettled (record : MerchantSourceImport δ)
  | submitting (record : MerchantSourceImport δ) (stage : IntakeStage)
  | linking (record : MerchantSourceImport δ) (submission : MerchantSourceSubmission)
      (snapshot : SnapshotRow) (alreadyConfirmed : Bool)
  | readLinked (record : MerchantSourceImport δ) (snapshot : SnapshotRow)
      (alreadyConfirmed : Bool)
  | intake (stage : IntakeStage)
  | readMerchant (request : ImportRequest)
  | readKey (request : ImportRequest) (targets : List (ImportTarget × RequestedPage))
  | fetching (request : ImportRequest) (targets : List (ImportTarget × RequestedPage))
  | inserting (request : ImportRequest) (targets : List (ImportTarget × RequestedPage))
      (failure : Option String) (draft : δ)
  | readDuplicate (request : ImportRequest) (targets : List (ImportTarget × RequestedPage))

/-- What the pages answered, and what is drawn for new rows. -/
structure ImportInput (δ : Type) where
  intake : IntakeInput
  importId : Uuid
  now : Instant
  failure : Option String
  draft : δ

/-- What a statement leads to. -/
inductive ImportMove (δ : Type)
  | next (stage : ImportStage δ)
  | returns (record : MerchantSourceImport δ)
  | done
  | refuses (refused : RefusedTarget)
  | raises (failure : IntakeFailure)

def ImportMove.stage? : ImportMove δ → Option (ImportStage δ)
  | next stage => some stage
  | returns _ | done | refuses _ | raises _ => none

def importResource : String := "merchant_source_import"

def importNotFound (importId : Uuid) : ImportMove δ :=
  .raises (.service (.notFound importResource (toString importId)))

/-- `_same_request`. -/
def sameImport (settled : MerchantSourceImport δ) (targets : List (ImportTarget × RequestedPage))
    (requestKey : String) : ImportMove δ :=
  if pagesOf targets ≠ settled.pages then
    .raises (.service (.conflict "import_request_key_reused"
      "this request key has already imported a different set of pages"
      (some importResource) (some requestKey)))
  else .returns settled

section Stages

variable [SourceDrafts δ] (store : ImportStore δ)

def readImport (merchantId importId : Uuid) : ImportMove δ :=
  match store.read merchantId importId with
  | none => importNotFound importId
  | some record => .next (.readSettled record)

/-- The call that a confirmation submits. -/
def confirmationCall (record : MerchantSourceImport δ) (document : SourceDocumentInput) :
    SubmitCall where
  merchantId := record.merchantId
  requestKey := submissionKey record.id
  document := document
  origin := .merchantImport

/-- What the submission under the key of an import settled is linked; where there is none, the
draft is submitted. -/
def readSettledImport (record : MerchantSourceImport δ) : ImportMove δ :=
  match store.intake.settled? record.merchantId (submissionKey record.id) with
  | some (submission, snapshot) => .next (.linking record submission snapshot true)
  | none =>
      match blockersFor record with
      | blocker :: _ =>
          .raises (.service (.conflict blocker.code blocker.detail (some importResource)
            (some (toString record.id))))
      | [] =>
          match SourceDrafts.document record.draft with
          | .error error => .raises (.service (.valueError error))
          | .ok document =>
              .next (.submitting record (.readMerchant (confirmationCall record document)))

/-- What a statement of the intake leads to inside of a confirmation. -/
def confirmationMove (record : MerchantSourceImport δ) : IntakeMove → ImportMove δ
  | .next stage => .next (.submitting record stage)
  | .answers submission snapshot => .next (.linking record submission snapshot false)
  | .publishes _ => .done
  | .raises failure => .raises failure

/-- `_link`, up to its commit: a row that is confirmed by then is not matched, and a row of a
failed import is refused by a check constraint. -/
def link (record : MerchantSourceImport δ) (snapshot : SnapshotRow) (alreadyConfirmed : Bool)
    (now : Instant) : ImportStore δ × ImportMove δ :=
  let goesOn : ImportMove δ := .next (.readLinked record snapshot alreadyConfirmed)
  if record.confirmation.isSome then (store, goesOn)
  else
    match (store.read record.merchantId record.id).filter fun stored =>
        stored.confirmation.isNone with
    | none => (store, goesOn)
    | some stored =>
        if stored.state = .failed then
          (store, .raises (.service (.integrityError "failed_import_is_not_confirmed")))
        else
          ({ store with
              imports := store.imports.set
                { stored with
                  confirmation := some { sourceSnapshotId := snapshot.id, confirmedAt := now } }
              links := store.links ++ [(record.id, snapshot.id)] }, goesOn)

/-- The last read of `_link`, and the answer. -/
def readLinked (record : MerchantSourceImport δ) (snapshot : SnapshotRow)
    (alreadyConfirmed : Bool) : ImportStore δ × ImportMove δ :=
  match store.read record.merchantId record.id with
  | none => (store, importNotFound record.id)
  | some stored =>
      ({ store with
          answers := store.answers ++
            [{ importId := record.id
               linked := stored.confirmation.map Confirmation.sourceSnapshotId
               snapshotId := snapshot.id
               alreadyConfirmed := alreadyConfirmed }] }, .done)

/-- The merchant is read, and the pages are validated. -/
def readImportMerchant [TargetValidation] (request : ImportRequest) : ImportMove δ :=
  match store.intake.merchants.get? request.merchantId with
  | none => .raises (.service (.notFound "merchant" (toString request.merchantId)))
  | some _ =>
      match targetsOf request.pages with
      | .error refused => .refuses refused
      | .ok targets => .next (.readKey request targets)

def readKey (request : ImportRequest) (targets : List (ImportTarget × RequestedPage)) :
    ImportMove δ :=
  match store.byRequestKey request.merchantId request.requestKey with
  | some settled => sameImport settled targets request.requestKey
  | none => .next (.fetching request targets)

/-- The row of an import. -/
def importRow (id : Uuid) (request : ImportRequest)
    (targets : List (ImportTarget × RequestedPage)) (failure : Option String) (draft : δ) :
    MerchantSourceImport δ where
  id := id
  merchantId := request.merchantId
  requestKey := request.requestKey
  origin := (targets.head?.map fun target => target.1.origin).getD ""
  state := if failure.isSome then .failed else .completed
  failureReason := failure
  pages := pagesOf targets
  draft := if failure.isSome then SourceDrafts.empty else draft
  confirmation := none

/-- The row is written, unless its request key is taken by now.  An identifier that is taken is
not drawn. -/
def insertImport (importId : Uuid) (request : ImportRequest)
    (targets : List (ImportTarget × RequestedPage)) (failure : Option String) (draft : δ) :
    ImportStore δ × ImportMove δ :=
  let row := importRow importId request targets failure draft
  if (store.byRequestKey request.merchantId request.requestKey).isSome then
    (store, .next (.readDuplicate request targets))
  else
    match store.imports.insert? row with
    | none => (store, .next (.inserting request targets failure draft))
    | some imports => ({ store with imports := imports }, .returns row)

def readDuplicateImport (request : ImportRequest)
    (targets : List (ImportTarget × RequestedPage)) : ImportMove δ :=
  match store.byRequestKey request.merchantId request.requestKey with
  | some duplicate => sameImport duplicate targets request.requestKey
  | none => .raises (.service (.integrityError "uq_merchant_source_import_request"))

variable [TargetValidation] [FieldOrder] [ContentDigest]

/-- What a stage does, and where it leads. -/
def ImportStage.perform (input : ImportInput δ) :
    ImportStage δ → ImportStore δ → ImportStore δ × ImportMove δ
  | .readImport merchantId importId, store =>
      (store, Importer.readImport store merchantId importId)
  | .readSettled record, store => (store, readSettledImport store record)
  | .submitting record stage, store =>
      ({ store with intake := (stage.perform input.intake store.intake).1 },
        confirmationMove record (stage.perform input.intake store.intake).2)
  | .linking record _ snapshot alreadyConfirmed, store =>
      link store record snapshot alreadyConfirmed input.now
  | .readLinked record snapshot alreadyConfirmed, store =>
      Importer.readLinked store record snapshot alreadyConfirmed
  | .intake stage, store =>
      ({ store with intake := (stage.perform input.intake store.intake).1 },
        match (stage.perform input.intake store.intake).2.stage? with
        | some next => .next (.intake next)
        | none => .done)
  | .readMerchant request, store => (store, readImportMerchant store request)
  | .readKey request targets, store => (store, Importer.readKey store request targets)
  | .fetching request targets, store =>
      ({ store with fetches := store.fetches ++ [request] },
        .next (.inserting request targets input.failure input.draft))
  | .inserting request targets failure draft, store =>
      insertImport store input.importId request targets failure draft
  | .readDuplicate request targets, store => (store, readDuplicateImport store request targets)

def ImportCall.enter : ImportCall → ImportStage δ
  | confirm merchantId importId => .readImport merchantId importId
  | start request => .readMerchant request
  | intake call => .intake call.enter

/-- Any number of clients import and confirm, beside the other writers of the source. -/
def importSystem (δ : Type) [SourceDrafts δ] :
    System (ImportStore δ) ImportCall (ImportStage δ) (ImportInput δ) Empty where
  enter := ImportCall.enter
  act input stage store := ((stage.perform input store).1, (stage.perform input store).2.stage?)
  outside := nofun

end Stages

/-- The merchant whose source line a stage holds. -/
def ImportStage.holdsLine : ImportStage δ → Option Uuid
  | submitting _ stage | intake stage => stage.holdsLine
  | _ => none

/-- A source line is held by one client at a time. -/
def importLines (δ : Type) : System.Regime (ImportStage δ) Empty where
  beside next other :=
    ∀ merchantId, next.holdsLine = some merchantId → other.holdsLine ≠ some merchantId
  occurs := nofun

def ImportStore.opening (merchants : Table SourceMerchant) : ImportStore δ where
  intake := .opening merchants
  imports := .empty

end AgentRank.Importer
