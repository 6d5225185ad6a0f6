import AgentRank.Importer.Confirmations

/-!
# Imports over whole runs

However confirmations, imports and other writers of a source interleave and crash, an import is
linked once and to the snapshot of its one submission, everybody who confirms it is told that
snapshot, and a request key that has imported some pages fetches no others.
-/

namespace AgentRank.Importer

open Constraints Relational Representation Store Transition

variable {δ : Type}

/-- The submission is the one of an import. -/
def SubmissionOf (record : MerchantSourceImport δ) (submission : MerchantSourceSubmission) :
    Prop :=
  submission.merchantId = record.merchantId ∧ submission.requestKey = submissionKey record.id

/-- What holds of the links of a store. -/
structure ConfirmedOnce (store : ImportStore δ) : Prop where
  /-- A confirmed import has one submission, and is linked to the snapshot of it. -/
  submitted : ∀ record ∈ store.imports, ∀ confirmation, record.confirmation = some confirmation →
    ∃ submission ∈ store.intake.submissions, SubmissionOf record submission ∧
      submission.sourceSnapshotId = confirmation.sourceSnapshotId ∧
        ∀ other ∈ store.intake.submissions, SubmissionOf record other → other = submission
  /-- No two imports share a submission. -/
  separate : ∀ first ∈ store.imports, ∀ second ∈ store.imports, ∀ submission,
    SubmissionOf first submission → SubmissionOf second submission → first = second
  /-- Every link that was written is the one of its import. -/
  linked : ∀ importId snapshotId,
    (importId, snapshotId) ∈ store.links ↔ LinkedIn store importId snapshotId
  linkedOnce : (store.links.map Prod.fst).Nodup
  /-- Whoever was answered was told the link of the import. -/
  answered : ∀ answer ∈ store.answers, answer.linked = some answer.snapshotId ∧
    LinkedIn store answer.importId answer.snapshotId

variable {store : ImportStore δ}

theorem ImportGood.confirmedOnce (good : ImportGood store) :
    ConfirmedOnce store where
  submitted := by
    intro record member confirmation isConfirmed
    rcases good.submitted record member confirmation isConfirmed with
      ⟨submission, submissionMem, merchant, key, names⟩
    refine ⟨submission, submissionMem, ⟨merchant, key⟩, names, ?_⟩
    intro other otherMem isOther
    exact good.intake.keys other otherMem submission submissionMem
      (isOther.1.trans merchant.symm) (isOther.2.trans key.symm)
  separate := by
    intro first firstMem second secondMem submission isFirst isSecond
    have sameId : first.id = second.id :=
      submissionKey_injective (isFirst.2.symm.trans isSecond.2)
    exact Table.eq_of_key_eq firstMem secondMem sameId
  linked := good.linked
  linkedOnce := good.linkedOnce
  answered := by
    intro answer isAnswer
    rcases good.answered answer isAnswer with ⟨linked, isLink⟩
    exact ⟨linked, (good.linked _ _).mp isLink⟩

/-- What a store keeps: a row that is confirmed stays as it is, and one that is not may be
confirmed and nothing else. -/
structure ImportsStay (store later : ImportStore δ) : Prop where
  confirmed : ∀ record ∈ store.imports, record.confirmation.isSome = true →
    record ∈ later.imports
  stays : ∀ record ∈ store.imports,
    ∃ confirmation, { record with confirmation := confirmation } ∈ later.imports
  links : ∀ link ∈ store.links, link ∈ later.links

theorem ImportsStay.refl (store : ImportStore δ) : ImportsStay store store where
  confirmed _ member _ := member
  stays record member := ⟨record.confirmation, member⟩
  links _ member := member

theorem ImportsStay.trans {first second third : ImportStore δ} (earlier : ImportsStay first second)
    (later : ImportsStay second third) : ImportsStay first third where
  confirmed record member isConfirmed :=
    later.confirmed record (earlier.confirmed record member isConfirmed) isConfirmed
  stays record member := by
    rcases earlier.stays record member with ⟨_, stays⟩
    rcases later.stays _ stays with ⟨confirmation, stays⟩
    exact ⟨confirmation, stays⟩
  links link member := later.links link (earlier.links link member)

theorem ImportChange.stay {result : ImportStore δ} {touched : Option Uuid}
    (change : ImportChange store touched result) : ImportsStay store result where
  confirmed _ member isConfirmed := confirmed_of_change change member isConfirmed
  stays _ member := stays_of_change change member
  links := links_of_change change

variable {record : MerchantSourceImport δ}

section Repeats

/-- The submission of an import is settled. -/
theorem settled_of_submittedAs (good : ImportGood store) {snapshotId : Uuid}
    (isSubmitted : SubmittedAs store record snapshotId) :
    ∃ submission snapshot, snapshot.id = snapshotId ∧
      store.intake.settled? record.merchantId (submissionKey record.id) =
        some (submission, snapshot) := by
  rcases isSubmitted with ⟨submission, member, merchant, key, names⟩
  rcases good.intake.named submission member with ⟨snapshot, snapshotMem, isNamed, _⟩
  refine ⟨submission, snapshot, isNamed.trans names, settled?_eq_some_iff.mpr ⟨?_, snapshotMem,
    isNamed⟩⟩
  cases found : store.intake.submission? record.merchantId (submissionKey record.id) with
  | none => exact absurd key (submission?_eq_none_iff.mp found submission member merchant)
  | some other =>
      rcases submission?_eq_some found with ⟨otherMem, otherMerchant, otherKey⟩
      rw [good.intake.keys other otherMem submission member
        (otherMerchant.trans merchant.symm) (otherKey.trans key.symm)]

variable [SourceDrafts δ] [TargetValidation] [FieldOrder] [ContentDigest]

/-- What is told to whoever confirms a confirmed import again: each statement leads to the next,
writes nothing, and the last one answers with the link. -/
def Repeats (store : ImportStore δ) (record : MerchantSourceImport δ) (snapshotId : Uuid) :
    Prop :=
  ∃ submission snapshot, snapshot.id = snapshotId ∧
    ∀ input : ImportInput δ,
      (ImportStage.readImport record.merchantId record.id).perform input store =
          (store, .next (.readSettled record)) ∧
        (ImportStage.readSettled record).perform input store =
          (store, .next (.linking record submission snapshot true)) ∧
        (ImportStage.linking record submission snapshot true).perform input store =
          (store, .next (.readLinked record snapshot true)) ∧
        (ImportStage.readLinked record snapshot true).perform input store =
          ({ store with
              answers := store.answers ++
                [{ importId := record.id
                   linked := some snapshotId
                   snapshotId := snapshotId
                   alreadyConfirmed := true }] }, .done)

theorem repeats_of_confirmed (good : ImportGood store) (member : record ∈ store.imports)
    {confirmation : Confirmation} (isConfirmed : record.confirmation = some confirmation) :
    Repeats store record confirmation.sourceSnapshotId := by
  rcases settled_of_submittedAs good (good.submitted record member confirmation isConfirmed) with
    ⟨submission, snapshot, isNamed, isSettled⟩
  have isRead : store.read record.merchantId record.id = some record :=
    read_eq_some_iff.mpr ⟨member, rfl, rfl⟩
  refine ⟨submission, snapshot, isNamed, fun input => ⟨?_, ?_, ?_, ?_⟩⟩
  · change (store, readImport store record.merchantId record.id) = _
    rw [readImport, isRead]
  · change (store, readSettledImport store record) = _
    rw [readSettledImport, isSettled]
  · change link store record snapshot true input.now = _
    rw [link, isConfirmed]
    rfl
  · change readLinked store record snapshot true = _
    rw [readLinked, isRead, isNamed]
    dsimp only
    rw [isConfirmed]
    rfl

/-- What a request is answered with whose key has imported other pages. -/
def keyReused (requestKey : String) : ImportMove δ :=
  .raises (.service (.conflict "import_request_key_reused"
    "this request key has already imported a different set of pages"
    (some importResource) (some requestKey)))

/-- A key that has imported some pages is refused for others, before anything is fetched. -/
theorem readKey_reused (good : ImportGood store) (member : record ∈ store.imports)
    {request : ImportRequest} {targets : List (ImportTarget × RequestedPage)}
    (merchant : record.merchantId = request.merchantId)
    (key : record.requestKey = request.requestKey) (other : pagesOf targets ≠ record.pages)
    (input : ImportInput δ) :
    (ImportStage.readKey request targets).perform input store =
      (store, keyReused request.requestKey) := by
  change (store, readKey store request targets) = _
  cases found : store.byRequestKey request.merchantId request.requestKey with
  | none => exact absurd key (byRequestKey_eq_none_iff.mp found record member merchant)
  | some settled =>
      rcases byRequestKey_eq_some found with ⟨settledMem, settledMerchant, settledKey⟩
      have same : settled = record := good.keys settled settledMem record member
        (settledMerchant.trans merchant.symm) (settledKey.trans key.symm)
      rw [readKey, found, same]
      dsimp only
      rw [sameImport, if_pos other]
      rfl

end Repeats

/-! ## Fetches -/

/-- A request under the key of an import. -/
def UnderKey (record : MerchantSourceImport δ) (request : ImportRequest) : Prop :=
  record.merchantId = request.merchantId ∧ record.requestKey = request.requestKey

instance (record : MerchantSourceImport δ) : DecidablePred (UnderKey record) :=
  fun _ => inferInstanceAs (Decidable (_ ∧ _))

/-- What was fetched under the key of an import. -/
def ImportStore.fetchesUnder (store : ImportStore δ) (record : MerchantSourceImport δ) :
    List ImportRequest :=
  store.fetches.filter fun request => UnderKey record request

abbrev ImportWorld (δ : Type) := World (ImportStore δ) (ImportStage δ)

/-- The key of an import is used, and nobody is fetching under it. -/
structure Used (world : ImportWorld δ) (record : MerchantSourceImport δ) : Prop where
  stored : ∃ confirmation, { record with confirmation := confirmation } ∈ world.shared.imports
  unfetched : ∀ client request targets,
    world.clients client = some (.fetching request targets) → ¬ UnderKey record request

section Runs

variable [SourceDrafts δ] [TargetValidation] [FieldOrder] [ContentDigest]
  {world : ImportWorld δ} {events more : List (Event ImportCall (ImportInput δ) Empty)}

/-- A client fetches only after it has read that its key is unused. -/
theorem fetching_of_perform {stage : ImportStage δ} {input : ImportInput δ}
    {request : ImportRequest} {targets : List (ImportTarget × RequestedPage)}
    (isNext : (stage.perform input store).2.stage? = some (.fetching request targets)) :
    store.byRequestKey request.merchantId request.requestKey = none := by
  cases stage with
  | readKey asked found =>
      change (readKey store asked found).stage? = _ at isNext
      unfold readKey at isNext
      split at isNext
      · exact absurd isNext stage?_sameImport
      · next isUnused =>
          cases isNext
          exact isUnused
  | readImport merchantId importId =>
      change (readImport store merchantId importId).stage? = _ at isNext
      unfold readImport at isNext
      split at isNext <;> cases isNext
  | readSettled record =>
      change (readSettledImport store record).stage? = _ at isNext
      unfold readSettledImport at isNext
      split at isNext
      · cases isNext
      · split at isNext
        · cases isNext
        · split at isNext <;> cases isNext
  | submitting record stage =>
      change (confirmationMove record (stage.perform input.intake store.intake).2).stage? = _
        at isNext
      unfold confirmationMove at isNext
      split at isNext <;> cases isNext
  | linking record submission snapshot alreadyConfirmed =>
      change (link store record snapshot alreadyConfirmed input.now).2.stage? = _ at isNext
      unfold link at isNext
      dsimp only at isNext
      split at isNext
      · cases isNext
      · split at isNext
        · cases isNext
        · split at isNext <;> cases isNext
  | readLinked record snapshot alreadyConfirmed =>
      change (readLinked store record snapshot alreadyConfirmed).2.stage? = _ at isNext
      unfold readLinked at isNext
      split at isNext <;> cases isNext
  | intake stage =>
      simp only [ImportStage.perform] at isNext
      split at isNext <;> cases isNext
  | readMerchant asked =>
      change (readImportMerchant store asked).stage? = _ at isNext
      unfold readImportMerchant at isNext
      split at isNext
      · cases isNext
      · split at isNext <;> cases isNext
  | fetching asked found => cases isNext
  | inserting asked found failure draft =>
      change (insertImport store input.importId asked found failure draft).2.stage? = _ at isNext
      unfold insertImport at isNext
      dsimp only at isNext
      split at isNext
      · cases isNext
      · split at isNext <;> cases isNext
  | readDuplicate asked found =>
      change (readDuplicateImport store asked found).stage? = _ at isNext
      unfold readDuplicateImport at isNext
      split at isNext
      · exact absurd isNext stage?_sameImport
      · cases isNext

/-- Only a client that fetches adds to what was fetched. -/
theorem fetchesUnder_of_perform {stage : ImportStage δ} (input : ImportInput δ)
    (unfetched : ∀ request targets, stage = .fetching request targets → ¬ UnderKey record request) :
    (stage.perform input store).1.fetchesUnder record = store.fetchesUnder record := by
  cases stage with
  | fetching request targets =>
      have isOther : ¬ UnderKey record request := unfetched request targets rfl
      change (store.fetches ++ [request]).filter _ = _
      rw [List.filter_append, List.filter_singleton, decide_eq_false isOther]
      exact List.append_nil _
  | linking record submission snapshot alreadyConfirmed =>
      change (link store record snapshot alreadyConfirmed input.now).1.fetchesUnder _ = _
      unfold link
      dsimp only
      split
      · rfl
      · split
        · rfl
        · split <;> rfl
  | readLinked record snapshot alreadyConfirmed =>
      change (readLinked store record snapshot alreadyConfirmed).1.fetchesUnder _ = _
      unfold readLinked
      split <;> rfl
  | inserting request targets failure draft =>
      change (insertImport store input.importId request targets failure draft).1.fetchesUnder _ = _
      unfold insertImport
      dsimp only
      split
      · rfl
      · split <;> rfl
  | readImport | readSettled | submitting | intake | readMerchant | readKey | readDuplicate => rfl

/-- What one step of the world does to the store. -/
theorem change_of_step (obeys : System.Obeys (importDiscipline δ) world)
    (event : Event ImportCall (ImportInput δ) Empty) :
    ∃ touched, ImportChange world.shared touched ((importSystem δ).step event world).shared := by
  cases event with
  | arrive client call =>
      unfold System.step
      dsimp only
      split <;> exact ⟨none, importChange_kept⟩
  | crash => exact ⟨none, importChange_kept⟩
  | outside event => cases event
  | act client input =>
      unfold System.step
      dsimp only
      split
      · exact ⟨none, importChange_kept⟩
      · next stage busy =>
          rcases (importPerform_writes obeys.shared (obeys.relies client stage busy) input).change
            with ⟨touched, change, _⟩
          exact ⟨touched, change⟩

/-- A used key stays used, and fetches nothing more. -/
theorem used_step (obeys : System.Obeys (importDiscipline δ) world) (used : Used world record)
    (event : Event ImportCall (ImportInput δ) Empty) :
    Used ((importSystem δ).step event world) record ∧
      ((importSystem δ).step event world).shared.fetchesUnder record =
        world.shared.fetchesUnder record := by
  have stays : ∃ confirmation, { record with confirmation := confirmation } ∈
      ((importSystem δ).step event world).shared.imports := by
    rcases change_of_step obeys event with ⟨touched, change⟩
    rcases used.stored with ⟨_, stored⟩
    rcases stays_of_change change stored with ⟨confirmation, stays⟩
    exact ⟨confirmation, stays⟩
  cases event with
  | arrive client call =>
      cases isFree : world.clients client with
      | some stage =>
          simp only [System.step, isFree]
          exact ⟨used, trivial⟩
      | none =>
          simp only [System.step, isFree] at stays ⊢
          refine ⟨⟨stays, ?_⟩, trivial⟩
          intro other request targets busy
          rcases World.of_place busy with ⟨_, isNext⟩ | ⟨_, wasBusy⟩
          · cases call <;> cases isNext
          · exact used.unfetched other request targets wasBusy
  | crash client =>
      refine ⟨⟨used.stored, ?_⟩, rfl⟩
      intro other request targets busy
      rcases World.of_place busy with ⟨_, isNext⟩ | ⟨_, wasBusy⟩
      · cases isNext
      · exact used.unfetched other request targets wasBusy
  | outside event => cases event
  | act client input =>
      cases busy : world.clients client with
      | none =>
          simp only [System.step, busy]
          exact ⟨used, trivial⟩
      | some stage =>
          simp only [System.step, busy] at stays ⊢
          constructor
          · refine ⟨stays, ?_⟩
            intro other request targets isBusy
            rcases World.of_place isBusy with ⟨_, isNext⟩ | ⟨_, wasBusy⟩
            · -- The client has just read that its key is unused.
              have isUnused := fetching_of_perform isNext
              rcases used.stored with ⟨confirmation, stored⟩
              rintro ⟨merchant, key⟩
              exact byRequestKey_eq_none_iff.mp isUnused _ stored merchant key
            · exact used.unfetched other request targets wasBusy
          · refine fetchesUnder_of_perform input ?_
            rintro request targets rfl
            exact used.unfetched client request targets busy

end Runs

section Sample

local instance importDigest : ContentDigest := sampleDigest
local instance importOrder : FieldOrder := sampleOrder

/-- Drafts that are kept as the documents that they are written as. -/
local instance documentDrafts : SourceDrafts SourceDocumentInput where
  empty := { products := [], policyText := .empty }
  productCount document := document.products.length
  variantCount document := (document.products.map fun product => product.variants.length).sum
  document document :=
    if document.products.isEmpty then .error { message := "products" } else .ok document

/-- The addresses of one storefront. -/
local instance storefront : TargetValidation where
  validate text :=
    if "https://shop.example/".isPrefixOf text then
      .ok { text := text, origin := "https://shop.example" }
    else
      .error
        { reason := "scheme_not_permitted"
          detail := "a merchant page must be an http or https URL" }

def sampleImport : ImportRequest where
  merchantId := 1
  requestKey := "first-import"
  pages := [{ url := "https://shop.example/mug", kind := .product, name := none }]

def importInput : ImportInput SourceDocumentInput where
  intake := sampleInput
  importId := 30
  now := 0
  failure := none
  draft := sampleDocument

/-- The pages of a shop are imported, and a first confirmation crashes after it has submitted. -/
def importAndCrash : List (Event ImportCall (ImportInput SourceDocumentInput) Empty) :=
  .arrive 0 (.start sampleImport) :: List.replicate 4 (.act 0 importInput) ++
    .arrive 0 (.confirm 1 30) :: List.replicate 10 (.act 0 importInput) ++ [.crash 0]

/-- The import is confirmed twice more. -/
def confirmTwice : List (Event ImportCall (ImportInput SourceDocumentInput) Empty) :=
  .arrive 0 (.confirm 1 30) :: List.replicate 4 (.act 0 importInput) ++
    .arrive 0 (.confirm 1 30) :: List.replicate 4 (.act 0 importInput)

example :
    let world := run (importSystem SourceDocumentInput).step
      (World.opening (.opening sampleMerchants)) (importAndCrash ++ confirmTwice)
    world.shared.links = [(30, 10)] ∧ world.shared.intake.submissions.rows.length = 1 ∧
      world.shared.answers.length = 2 ∧ world.shared.fetches.length = 1 := by
  decide +kernel

end Sample

end AgentRank.Importer
