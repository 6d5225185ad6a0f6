import AgentRank.Importer.Imports
import AgentRank.Representation.SourceHistory

/-!
# An import is confirmed once

A confirmation submits in one transaction and links in another, so a crash or another
confirmation can come between the two.  The key of the submission is derived from the import and
the intake keeps one submission for a key, so whoever comes next finds the same submission and
links the import to the same snapshot.
-/

namespace AgentRank.Importer

open Constraints Relational Representation Store Transition

/-- Imports with one submission key are the same. -/
theorem submissionKey_injective {first second : Uuid}
    (same : submissionKey first = submissionKey second) : first = second := by
  have sameChars := congrArg String.toList same
  simp only [submissionKey, String.toList_append, String.toList_ofList] at sameChars
  exact hexOf_injective (List.append_cancel_left sameChars)

/-! ## The submission of a call -/

/-- The call that a stage of the intake submits. -/
def submits : IntakeStage → Option SubmitCall
  | .readMerchant call => some call
  | stage => stage.work?.map Submitting.call

section Submits

variable {store : IntakeStore} {stage next : IntakeStage} {call : SubmitCall}

theorem next_of_readSettled {work : Submitting} {goesOn : IntakeStage}
    (isNext : readSettled store work goesOn = .next next) : next = goesOn := by
  unfold readSettled at isNext
  split at isNext
  · unfold sameRequest at isNext
    split at isNext <;> cases isNext
  · cases isNext
    rfl

variable {input : IntakeInput}

theorem submits_of_recordSubmission {work : Submitting} {snapshots : Table SnapshotRow}
    {snapshot : SnapshotRow} {created : Bool} {again : IntakeStage}
    (isAgain : submits again = some work.call)
    (isNext : (recordSubmission store input work snapshots snapshot created again).2 = .next next) :
    submits next = some work.call := by
  unfold recordSubmission at isNext
  dsimp only at isNext
  split at isNext
  · cases isNext
    exact isAgain
  · split at isNext <;> cases isNext
    rfl

variable [FieldOrder] [ContentDigest]

/-- From its first statement to its last a submission is of one call. -/
theorem submits_of_perform (isCall : submits stage = some call)
    (isNext : (stage.perform input store).2 = .next next) : submits next = some call := by
  cases stage with
  | readMerchant request =>
      cases isCall
      change readMerchant store call = .next next at isNext
      unfold readMerchant at isNext
      split at isNext
      · cases isNext
      · split at isNext <;> cases isNext
        rfl
  | readSettled work =>
      rw [next_of_readSettled isNext]
      exact isCall
  | claimLine work =>
      cases isNext
      exact isCall
  | readAgain work =>
      rw [next_of_readSettled isNext]
      exact isCall
  | readCurrent work =>
      change readCurrent store work = .next next at isNext
      unfold readCurrent at isNext
      dsimp only at isNext
      split at isNext <;> cases isNext
      exact isCall
  | readVersion work current =>
      change readVersion store work current = .next next at isNext
      unfold readVersion at isNext
      dsimp only at isNext
      split at isNext
      · cases isNext
      · split at isNext
        · cases isNext
          exact isCall
        · split at isNext <;> cases isNext <;> exact isCall
  | insertSnapshot work definition =>
      change (insertRow store definition _ _ _).2 = .next next at isNext
      unfold insertRow at isNext
      split at isNext
      · cases isNext
      · dsimp only at isNext
        split at isNext <;> cases isNext <;> exact isCall
  | recordCreated work definition writeOrder =>
      cases isCall
      change (recordCreated store input work definition writeOrder).2 = .next next at isNext
      unfold recordCreated at isNext
      dsimp only at isNext
      split at isNext
      · cases isNext
        rfl
      · exact submits_of_recordSubmission rfl isNext
  | recordUnchanged work current =>
      cases isCall
      exact submits_of_recordSubmission rfl isNext
  | readDuplicate work created =>
      change readDuplicate store work created = .next next at isNext
      unfold readDuplicate at isNext
      split at isNext
      · unfold sameRequest at isNext
        split at isNext <;> cases isNext
      · split at isNext <;> cases isNext
        exact isCall
  | retry work =>
      change retry store work = .next next at isNext
      unfold retry at isNext
      split at isNext
      · cases isNext
      · split at isNext <;> cases isNext
        exact isCall
  | findMerchant | claimPublication | readExisting | insertPublication | commitPublication
  | recoverPublication => cases isCall

/-- What a submission is answered with stands under its key. -/
theorem answered_of_submits (good : IntakeGood store) (relies : stage.Relies store)
    (isCall : submits stage = some call) {submission : MerchantSourceSubmission}
    {snapshot : SnapshotRow}
    (isAnswer : (stage.perform input store).2 = .answers submission snapshot) :
    submission ∈ (stage.perform input store).1.submissions ∧
      submission.merchantId = call.merchantId ∧ submission.requestKey = call.requestKey ∧
        snapshot.id = submission.sourceSnapshotId := by
  cases isWork : stage.work? with
  | none =>
      cases stage with
      | readMerchant request =>
          change readMerchant store request = _ at isAnswer
          unfold readMerchant at isAnswer
          split at isAnswer
          · cases isAnswer
          · split at isAnswer <;> cases isAnswer
      | findMerchant | claimPublication | readExisting | insertPublication | commitPublication
      | recoverPublication => cases isCall
      | readSettled | claimLine | readAgain | readCurrent | readVersion | insertSnapshot
      | recordCreated | recordUnchanged | readDuplicate | retry => cases isWork
  | some work =>
      have answered := answered_of_perform good relies isWork isAnswer
      have isOwn : work.call = call := by
        cases stage <;> cases isWork <;> exact Option.some.inj isCall
      rw [← isOwn]
      exact ⟨answered.member, answered.merchant, answered.requestKey, answered.named⟩

end Submits

/-! ## What holds of a store -/

variable {δ : Type}

/-- The submission of an import, and the snapshot that it names. -/
def SubmittedAs (store : ImportStore δ) (record : MerchantSourceImport δ)
    (snapshotId : Uuid) : Prop :=
  ∃ submission ∈ store.intake.submissions, submission.merchantId = record.merchantId ∧
    submission.requestKey = submissionKey record.id ∧ submission.sourceSnapshotId = snapshotId

/-- A link that was written stands in the row of its import. -/
def LinkedIn (store : ImportStore δ) (importId snapshotId : Uuid) : Prop :=
  ∃ record ∈ store.imports, record.id = importId ∧
    record.confirmation.map Confirmation.sourceSnapshotId = some snapshotId

structure ImportGood (store : ImportStore δ) : Prop where
  intake : IntakeGood store.intake
  keys : ∀ first ∈ store.imports, ∀ second ∈ store.imports,
    first.merchantId = second.merchantId → first.requestKey = second.requestKey → first = second
  submitted : ∀ record ∈ store.imports, ∀ confirmation, record.confirmation = some confirmation →
    SubmittedAs store record confirmation.sourceSnapshotId
  linked : ∀ importId snapshotId,
    (importId, snapshotId) ∈ store.links ↔ LinkedIn store importId snapshotId
  linkedOnce : (store.links.map Prod.fst).Nodup
  answered : ∀ answer ∈ store.answers, answer.linked = some answer.snapshotId ∧
    (answer.importId, answer.snapshotId) ∈ store.links

/-- What one step does to the store, and the merchant whose source line it writes under. -/
inductive ImportChange (store : ImportStore δ) : Option Uuid → ImportStore δ → Prop
  | submitted {touched : Option Uuid} {intake : IntakeStore}
      (change : IntakeChange store.intake touched intake) :
      ImportChange store touched { store with intake := intake }
  | fetched (fetches : List ImportRequest) :
      ImportChange store none { store with fetches := fetches }
  | inserted {row : MerchantSourceImport δ} {imports : Table (MerchantSourceImport δ)}
      (isNew : store.byRequestKey row.merchantId row.requestKey = none)
      (unconfirmed : row.confirmation = none)
      (isInserted : store.imports.insert? row = some imports) :
      ImportChange store none { store with imports := imports }
  | linked {row : MerchantSourceImport δ} (confirmation : Confirmation)
      (stored : row ∈ store.imports) (unconfirmed : row.confirmation = none)
      (isSubmitted : SubmittedAs store row confirmation.sourceSnapshotId) :
      ImportChange store none
        { store with
          imports := store.imports.set { row with confirmation := some confirmation }
          links := store.links ++ [(row.id, confirmation.sourceSnapshotId)] }
  | answered (answer : ConfirmationAnswer) (linked : answer.linked = some answer.snapshotId)
      (isLink : (answer.importId, answer.snapshotId) ∈ store.links) :
      ImportChange store none { store with answers := store.answers ++ [answer] }

variable {requestKey : String} {merchantId : Uuid}

section Changes

variable {store result : ImportStore δ} {touched : Option Uuid}
  {record : MerchantSourceImport δ} {snapshotId : Uuid}

theorem importChange_kept : ImportChange store none store :=
  .submitted .kept

/-- Two submissions of one import name one snapshot. -/
theorem SubmittedAs.unique (good : ImportGood store) {other : Uuid}
    (first : SubmittedAs store record snapshotId) (second : SubmittedAs store record other) :
    snapshotId = other := by
  rcases first with ⟨firstRow, firstMem, firstMerchant, firstKey, rfl⟩
  rcases second with ⟨secondRow, secondMem, secondMerchant, secondKey, rfl⟩
  rw [good.intake.keys firstRow firstMem secondRow secondMem
    (firstMerchant.trans secondMerchant.symm) (firstKey.trans secondKey.symm)]

theorem submissions_of_change (change : ImportChange store touched result) :
    ∀ submission ∈ store.intake.submissions, submission ∈ result.intake.submissions := by
  cases change with
  | submitted change => exact fun submission member => change.appends.submissions.subset member
  | fetched | inserted | linked | answered => exact fun _ member => member

theorem SubmittedAs.change (isSubmitted : SubmittedAs store record snapshotId)
    (change : ImportChange store touched result) : SubmittedAs result record snapshotId := by
  rcases isSubmitted with ⟨submission, member, isOwn⟩
  exact ⟨submission, submissions_of_change change submission member, isOwn⟩

/-- The rows after an import has been linked. -/
theorem mem_linked_iff (stored : record ∈ store.imports) {confirmation : Option Confirmation}
    {other : MerchantSourceImport δ} :
    other ∈ store.imports.set { record with confirmation := confirmation } ↔
      other = { record with confirmation := confirmation } ∨
        other ∈ store.imports ∧ other.id ≠ record.id :=
  Table.mem_set_iff stored rfl

/-- A row that is confirmed stays as it is. -/
theorem confirmed_of_change (change : ImportChange store touched result)
    (member : record ∈ store.imports) (isConfirmed : record.confirmation.isSome = true) :
    record ∈ result.imports := by
  cases change with
  | submitted | fetched | answered => exact member
  | inserted isNew unconfirmed isInserted =>
      exact (Table.mem_insert?_iff isInserted).mpr (Or.inl member)
  | linked confirmation stored unconfirmed isSubmitted =>
      refine (mem_linked_iff stored).mpr (Or.inr ⟨member, ?_⟩)
      intro same
      rw [Table.eq_of_key_eq member stored same, unconfirmed] at isConfirmed
      cases isConfirmed

/-- A row stays, whether it is confirmed or not. -/
theorem stays_of_change (change : ImportChange store touched result)
    (member : record ∈ store.imports) :
    ∃ confirmation, { record with confirmation := confirmation } ∈ result.imports := by
  cases change with
  | submitted | fetched | answered => exact ⟨record.confirmation, member⟩
  | inserted isNew unconfirmed isInserted =>
      exact ⟨record.confirmation, (Table.mem_insert?_iff isInserted).mpr (Or.inl member)⟩
  | @linked row confirmation stored unconfirmed isSubmitted =>
      by_cases same : record.id = row.id
      · refine ⟨some confirmation, (mem_linked_iff stored).mpr (Or.inl ?_)⟩
        rw [Table.eq_of_key_eq member stored same]
      · exact ⟨record.confirmation, (mem_linked_iff stored).mpr (Or.inr ⟨member, same⟩)⟩

/-- Links stay written. -/
theorem links_of_change (change : ImportChange store touched result) :
    ∀ link ∈ store.links, link ∈ result.links := by
  cases change with
  | linked => exact fun link member => List.mem_append_left _ member
  | submitted | fetched | inserted | answered => exact fun _ member => member

theorem byRequestKey_eq_none_iff :
    store.byRequestKey merchantId requestKey = none ↔
      ∀ record ∈ store.imports, record.merchantId = merchantId →
        record.requestKey ≠ requestKey := by
  simp only [ImportStore.byRequestKey, List.find?_eq_none, Bool.and_eq_true, decide_eq_true_eq,
    not_and]
  rfl

theorem byRequestKey_eq_some (found : store.byRequestKey merchantId requestKey = some record) :
    record ∈ store.imports ∧ record.merchantId = merchantId ∧ record.requestKey = requestKey := by
  have holds := List.find?_some found
  simp only [Bool.and_eq_true, decide_eq_true_eq] at holds
  exact ⟨List.mem_of_find?_eq_some found, holds⟩

/-- Writing a new import keeps the store good. -/
theorem ImportGood.inserted (good : ImportGood store) {imports : Table (MerchantSourceImport δ)}
    (isNew : store.byRequestKey record.merchantId record.requestKey = none)
    (unconfirmed : record.confirmation = none)
    (isInserted : store.imports.insert? record = some imports) :
    ImportGood { store with imports := imports } := by
  have member : ∀ other, other ∈ imports ↔ other ∈ store.imports ∨ other = record :=
    fun other => Table.mem_insert?_iff isInserted
  have unused := byRequestKey_eq_none_iff.mp isNew
  refine { good with keys := ?_, submitted := ?_, linked := ?_ }
  · intro first firstMem second secondMem sameMerchant sameKey
    rcases (member first).mp firstMem with isFirst | rfl <;>
      rcases (member second).mp secondMem with isSecond | rfl
    · exact good.keys first isFirst second isSecond sameMerchant sameKey
    · exact absurd sameKey (unused first isFirst sameMerchant)
    · exact absurd sameKey.symm (unused second isSecond sameMerchant.symm)
    · rfl
  · intro other otherMem confirmation isConfirmed
    rcases (member other).mp otherMem with isOld | rfl
    · exact good.submitted other isOld confirmation isConfirmed
    · rw [unconfirmed] at isConfirmed
      cases isConfirmed
  · intro importId snapshotId
    rw [good.linked]
    constructor
    · rintro ⟨other, otherMem, isLink⟩
      exact ⟨other, (member other).mpr (Or.inl otherMem), isLink⟩
    · rintro ⟨other, otherMem, sameId, isLink⟩
      rcases (member other).mp otherMem with isOld | rfl
      · exact ⟨other, isOld, sameId, isLink⟩
      · rw [unconfirmed] at isLink
        cases isLink

/-- Linking an import to the snapshot of its submission keeps the store good. -/
theorem ImportGood.link (good : ImportGood store) {confirmation : Confirmation}
    (stored : record ∈ store.imports) (unconfirmed : record.confirmation = none)
    (isSubmitted : SubmittedAs store record confirmation.sourceSnapshotId) :
    ImportGood
      { store with
        imports := store.imports.set { record with confirmation := some confirmation }
        links := store.links ++ [(record.id, confirmation.sourceSnapshotId)] } := by
  -- Every row has an earlier one with the same columns, up to the confirmation.
  have earlier : ∀ other ∈ store.imports.set { record with confirmation := some confirmation },
      ∃ old ∈ store.imports, old.id = other.id ∧ old.merchantId = other.merchantId ∧
        old.requestKey = other.requestKey := by
    intro other otherMem
    rcases (mem_linked_iff stored).mp otherMem with rfl | ⟨isOld, _⟩
    · exact ⟨record, stored, rfl, rfl, rfl⟩
    · exact ⟨other, isOld, rfl, rfl, rfl⟩
  have notLinked : ∀ snapshotId, (record.id, snapshotId) ∉ store.links := by
    intro snapshotId isLink
    rcases (good.linked record.id snapshotId).mp isLink with ⟨other, otherMem, sameId, isLink⟩
    rw [Table.eq_of_key_eq otherMem stored sameId, unconfirmed] at isLink
    cases isLink
  refine
    { good with keys := ?_, submitted := ?_, linked := ?_, linkedOnce := ?_, answered := ?_ }
  · intro first firstMem second secondMem sameMerchant sameKey
    rcases earlier first firstMem with ⟨firstOld, firstOldMem, firstId, firstMerchant, firstKey⟩
    rcases earlier second secondMem with
      ⟨secondOld, secondOldMem, secondId, secondMerchant, secondKey⟩
    have same := good.keys firstOld firstOldMem secondOld secondOldMem
      ((firstMerchant.trans sameMerchant).trans secondMerchant.symm)
      ((firstKey.trans sameKey).trans secondKey.symm)
    exact Table.eq_of_key_eq firstMem secondMem
      ((firstId.symm.trans (congrArg MerchantSourceImport.id same)).trans secondId)
  · intro other otherMem written isConfirmed
    rcases (mem_linked_iff stored).mp otherMem with rfl | ⟨isOld, _⟩
    · cases isConfirmed
      exact isSubmitted
    · exact good.submitted other isOld written isConfirmed
  · intro importId snapshotId
    rw [List.mem_append, List.mem_singleton, good.linked]
    constructor
    · rintro (⟨other, otherMem, sameId, isLink⟩ | isLast)
      · refine ⟨other, (mem_linked_iff stored).mpr (Or.inr ⟨otherMem, ?_⟩), sameId, isLink⟩
        intro same
        rw [Table.eq_of_key_eq otherMem stored same, unconfirmed] at isLink
        cases isLink
      · cases isLast
        exact ⟨_, (mem_linked_iff stored).mpr (Or.inl rfl), rfl, rfl⟩
    · rintro ⟨other, otherMem, sameId, isLink⟩
      rcases (mem_linked_iff stored).mp otherMem with rfl | ⟨isOld, _⟩
      · refine Or.inr ?_
        cases sameId
        cases isLink
        rfl
      · exact Or.inl ⟨other, isOld, sameId, isLink⟩
  · rw [List.map_append, List.map_singleton]
    refine good.linkedOnce.append (List.nodup_singleton _) ?_
    intro importId isOld isLast
    rcases List.mem_map.mp isOld with ⟨⟨linkedId, snapshotId⟩, isLink, sameId⟩
    obtain rfl : linkedId = record.id := sameId.trans (List.mem_singleton.mp isLast)
    exact notLinked snapshotId isLink
  · intro answer isAnswer
    rcases good.answered answer isAnswer with ⟨linked, isLink⟩
    exact ⟨linked, List.mem_append_left _ isLink⟩

/-- Every step keeps the store good. -/
theorem ImportGood.change (good : ImportGood store) (change : ImportChange store touched result) :
    ImportGood result := by
  cases change with
  | submitted intakeChange =>
      refine { good with intake := good.intake.change intakeChange, submitted := ?_ }
      intro record member confirmation isConfirmed
      exact (good.submitted record member confirmation isConfirmed).change
        (.submitted intakeChange)
  | fetched fetches => exact { good with }
  | inserted isNew unconfirmed isInserted => exact good.inserted isNew unconfirmed isInserted
  | linked confirmation stored unconfirmed isSubmitted =>
      exact good.link stored unconfirmed isSubmitted
  | answered answer linked isLink =>
      refine { good with answered := ?_ }
      intro other isAnswer
      rcases List.mem_append.mp isAnswer with isOld | isLast
      · exact good.answered other isOld
      · rw [List.mem_singleton.mp isLast]
        exact ⟨linked, isLink⟩

theorem sameLine_of_change (change : ImportChange store touched result)
    (untouched : touched ≠ some merchantId) : SameLine store.intake result.intake merchantId := by
  cases change with
  | submitted intakeChange => exact intakeChange.sameLine untouched
  | fetched | inserted | linked | answered => exact ⟨rfl, fun _ => rfl, le_rfl⟩

end Changes

/-- A record that a client has read: its row differs from it at most in a confirmation. -/
structure Known (store : ImportStore δ) (record : MerchantSourceImport δ) : Prop where
  stored : ∃ confirmation, { record with confirmation := confirmation } ∈ store.imports
  confirmed : record.confirmation.isSome = true → record ∈ store.imports

/-- What a stage relies on. -/
def ImportStage.Relies [FieldOrder] (store : ImportStore δ) : ImportStage δ → Prop
  | readImport _ _ | readMerchant _ | readKey _ _ | fetching _ _ | inserting _ _ _ _
  | readDuplicate _ _ => True
  | readSettled record => Known store record
  | submitting record stage => Known store record ∧ stage.Relies store.intake ∧
      ∃ call, submits stage = some call ∧ call.merchantId = record.merchantId ∧
        call.requestKey = submissionKey record.id
  | linking record _ snapshot _ => Known store record ∧ SubmittedAs store record snapshot.id
  | readLinked record snapshot _ => (record.id, snapshot.id) ∈ store.links
  | intake stage => stage.Relies store.intake

section Relies

variable {store result : ImportStore δ} {touched : Option Uuid}
  {record : MerchantSourceImport δ}

theorem known_of_mem (member : record ∈ store.imports) : Known store record :=
  ⟨⟨record.confirmation, member⟩, fun _ => member⟩

theorem Known.change (known : Known store record) (change : ImportChange store touched result) :
    Known result record := by
  constructor
  · rcases known.stored with ⟨_, member⟩
    rcases stays_of_change change member with ⟨confirmation, stays⟩
    exact ⟨confirmation, stays⟩
  · intro isConfirmed
    exact confirmed_of_change change (known.confirmed isConfirmed) isConfirmed

variable [FieldOrder]

/-- What the others do under other lines leaves a stage what it relies on. -/
theorem ImportStage.Relies.change {stage : ImportStage δ} (relies : stage.Relies store)
    (change : ImportChange store touched result)
    (untouched : ∀ merchantId, stage.holdsLine = some merchantId → touched ≠ some merchantId) :
    stage.Relies result := by
  cases stage with
  | readImport | readMerchant | readKey | fetching | inserting | readDuplicate => trivial
  | readSettled record => exact Known.change relies change
  | submitting record stage =>
      refine ⟨relies.1.change change, relies.2.1.sameLine ?_, relies.2.2⟩
      exact fun merchantId holds => sameLine_of_change change (untouched merchantId holds)
  | linking record submission snapshot alreadyConfirmed =>
      exact ⟨relies.1.change change, relies.2.change change⟩
  | readLinked record snapshot alreadyConfirmed => exact links_of_change change _ relies
  | intake stage =>
      refine IntakeStage.Relies.sameLine relies ?_
      exact fun merchantId holds => sameLine_of_change change (untouched merchantId holds)

end Relies

/-! ## The statements -/

section Statements

variable {store : ImportStore δ} {record : MerchantSourceImport δ} {snapshot : SnapshotRow}

theorem read_eq_some_iff {importId : Uuid} :
    store.read merchantId importId = some record ↔
      record ∈ store.imports ∧ record.id = importId ∧ record.merchantId = merchantId := by
  simp only [ImportStore.read, Option.filter_eq_some_iff, Table.get?_eq_some_iff,
    decide_eq_true_eq, and_assoc]
  rfl

/-- A row that is confirmed is linked to the snapshot of its submission. -/
theorem linked_of_confirmed (good : ImportGood store) (member : record ∈ store.imports)
    (isConfirmed : record.confirmation.isSome = true)
    (isSubmitted : SubmittedAs store record snapshot.id) :
    (record.id, snapshot.id) ∈ store.links := by
  rcases Option.isSome_iff_exists.mp isConfirmed with ⟨confirmation, confirmationEq⟩
  have same := (good.submitted record member confirmation confirmationEq).unique good isSubmitted
  rw [good.linked]
  refine ⟨record, member, rfl, ?_⟩
  rw [confirmationEq, ← same]
  rfl

/-- Linking writes the one link that the submission stands for, or finds it written. -/
theorem link_writes (good : ImportGood store) (known : Known store record)
    (isSubmitted : SubmittedAs store record snapshot.id) (alreadyConfirmed : Bool)
    (now : Instant) :
    ImportChange store none (link store record snapshot alreadyConfirmed now).1 ∧
      ∀ next, (link store record snapshot alreadyConfirmed now).2 = .next next →
        next = .readLinked record snapshot alreadyConfirmed ∧
          (record.id, snapshot.id) ∈ (link store record snapshot alreadyConfirmed now).1.links := by
  rcases known.stored with ⟨confirmation, stored⟩
  unfold link
  dsimp only
  split
  · next isConfirmed =>
      refine ⟨importChange_kept, fun next isNext => ?_⟩
      cases isNext
      exact ⟨rfl, linked_of_confirmed good (known.confirmed isConfirmed) isConfirmed isSubmitted⟩
  · split
    · next unmatched =>
        refine ⟨importChange_kept, fun next isNext => ?_⟩
        cases isNext
        refine ⟨rfl, ?_⟩
        have isRead : store.read record.merchantId record.id =
            some { record with confirmation := confirmation } :=
          read_eq_some_iff.mpr ⟨stored, rfl, rfl⟩
        rw [isRead, Option.filter_eq_none_iff] at unmatched
        have isConfirmed : confirmation ≠ none := by
          simpa using unmatched _ rfl
        exact @linked_of_confirmed _ _ { record with confirmation := confirmation } _ good
          stored (Option.isSome_iff_ne_none.mpr isConfirmed) isSubmitted
    · next row matched =>
        rcases Option.filter_eq_some_iff.mp matched with ⟨isRead, unconfirmed⟩
        rcases read_eq_some_iff.mp isRead with ⟨member, sameId, sameMerchant⟩
        rw [Option.isNone_iff_eq_none] at unconfirmed
        split
        · refine ⟨importChange_kept, fun next isNext => ?_⟩
          cases isNext
        · have rowSubmitted : SubmittedAs store row snapshot.id := by
            rcases isSubmitted with ⟨submission, submissionMem, merchant, key, names⟩
            exact ⟨submission, submissionMem, merchant.trans sameMerchant.symm,
              key.trans (congrArg submissionKey sameId.symm), names⟩
          constructor
          · rw [← sameId]
            exact .linked { sourceSnapshotId := snapshot.id, confirmedAt := now } member
              unconfirmed rowSubmitted
          · intro next isNext
            cases isNext
            exact ⟨rfl, List.mem_append_right _ (List.mem_singleton_self _)⟩

/-- What is read back is the link. -/
theorem readLinked_writes (good : ImportGood store)
    (isLink : (record.id, snapshot.id) ∈ store.links) (alreadyConfirmed : Bool) :
    ImportChange store none (readLinked store record snapshot alreadyConfirmed).1 ∧
      (readLinked store record snapshot alreadyConfirmed).2.stage? = none := by
  unfold readLinked
  split
  · exact ⟨importChange_kept, rfl⟩
  · next stored isRead =>
      rcases read_eq_some_iff.mp isRead with ⟨member, sameId, _⟩
      refine ⟨.answered _ ?_ isLink, rfl⟩
      rcases (good.linked record.id snapshot.id).mp isLink with ⟨other, otherMem, otherId, linked⟩
      rw [Table.eq_of_key_eq member otherMem (sameId.trans otherId.symm)]
      exact linked

theorem insertImport_writes [SourceDrafts δ] {importId : Uuid} {request : ImportRequest}
    {targets : List (ImportTarget × RequestedPage)} {failure : Option String} {draft : δ} :
    ImportChange store none (insertImport store importId request targets failure draft).1 := by
  unfold insertImport
  dsimp only
  split
  · exact importChange_kept
  · next isNew =>
      split
      · exact importChange_kept
      · next imports isInserted =>
          exact .inserted (Option.not_isSome_iff_eq_none.mp isNew) rfl isInserted

/-- What was settled under the key of an import is its submission. -/
theorem submitted_of_settled {submission : MerchantSourceSubmission}
    (isSettled : store.intake.settled? record.merchantId (submissionKey record.id) =
      some (submission, snapshot)) : SubmittedAs store record snapshot.id := by
  rcases settled?_eq_some_iff.mp isSettled with ⟨found, _, names⟩
  rcases submission?_eq_some found with ⟨member, merchant, key⟩
  exact ⟨submission, member, merchant, key, names.symm⟩

/-- What is answered from a stored import ends the call. -/
theorem stage?_sameImport {settled : MerchantSourceImport δ}
    {targets : List (ImportTarget × RequestedPage)} {stage : ImportStage δ} :
    (sameImport settled targets requestKey).stage? ≠ some stage := by
  unfold sameImport
  split <;> exact fun isNext => by cases isNext

theorem importGood_opening (merchants : Table SourceMerchant) :
    ImportGood (ImportStore.opening merchants : ImportStore δ) where
  intake := intakeGood_opening merchants
  keys := fun _ member => by cases member
  submitted := fun _ member => by cases member
  linked := by
    intro importId snapshotId
    constructor
    · exact fun isLink => by cases isLink
    · rintro ⟨record, member, _⟩
      cases member
  linkedOnce := List.nodup_nil
  answered := fun _ isAnswer => by cases isAnswer

end Statements

/-! ## The discipline -/

section Discipline

variable [FieldOrder] {store : ImportStore δ}

/-- How a statement ends: it writes under the line that its client holds, and leaves what the
next one relies on. -/
structure ImportWrites (store : ImportStore δ) (stage : ImportStage δ) (result : ImportStore δ)
    (next : Option (ImportStage δ)) : Prop where
  change : ∃ touched, ImportChange store touched result ∧
    ∀ merchantId, touched = some merchantId → stage.holdsLine = some merchantId
  next : ∀ stage, next = some stage → stage.Relies result

theorem writes_of_change {stage : ImportStage δ} {result : ImportStore δ}
    {next : Option (ImportStage δ)} (change : ImportChange store none result)
    (relies : ∀ stage, next = some stage → stage.Relies result) :
    ImportWrites store stage result next where
  change := ⟨none, change, fun _ isTouched => by cases isTouched⟩
  next := relies

theorem readSettled_writes [SourceDrafts δ] {record : MerchantSourceImport δ} (known : Known store record) :
    ImportWrites store (.readSettled record) store (readSettledImport store record).stage? := by
  refine writes_of_change importChange_kept ?_
  intro stage isNext
  unfold readSettledImport at isNext
  split at isNext
  · next submission snapshot isSettled =>
      cases isNext
      exact ⟨known, submitted_of_settled isSettled⟩
  · split at isNext
    · cases isNext
    · split at isNext <;> cases isNext
      exact ⟨known, trivial, _, rfl, rfl, rfl⟩

variable [ContentDigest]

/-- A statement of the intake inside of a confirmation. -/
theorem submitting_writes (good : ImportGood store) {record : MerchantSourceImport δ}
    {stage : IntakeStage} (relies : (ImportStage.submitting record stage).Relies store)
    (input : IntakeInput) :
    ImportWrites store (.submitting record stage)
      { store with intake := (stage.perform input store.intake).1 }
      (confirmationMove record (stage.perform input store.intake).2).stage? := by
  rcases relies with ⟨known, stageRelies, call, isCall, merchant, key⟩
  have writes := perform_writes good.intake stageRelies input
  rcases writes.change with ⟨touched, intakeChange, holds⟩
  have change : ImportChange store touched
      { store with intake := (stage.perform input store.intake).1 } := .submitted intakeChange
  refine ⟨⟨touched, change, holds⟩, ?_⟩
  intro next isNext
  cases isMove : (stage.perform input store.intake).2 with
  | next goesOn =>
      rw [isMove] at isNext
      cases isNext
      exact ⟨known.change change, writes.next goesOn isMove, call,
        submits_of_perform isCall isMove, merchant, key⟩
  | answers submission snapshot =>
      rw [isMove] at isNext
      cases isNext
      rcases answered_of_submits good.intake stageRelies isCall isMove with
        ⟨member, ofMerchant, underKey, names⟩
      exact ⟨known.change change, submission, member, ofMerchant.trans merchant,
        underKey.trans key, names.symm⟩
  | publishes | raises =>
      rw [isMove] at isNext
      cases isNext

/-- A statement of another writer of the source. -/
theorem intake_writes (good : ImportGood store) {stage : IntakeStage}
    (relies : stage.Relies store.intake) (input : IntakeInput) :
    ImportWrites store (.intake stage)
      { store with intake := (stage.perform input store.intake).1 }
      (match (stage.perform input store.intake).2.stage? with
        | some next => ImportMove.next (.intake next)
        | none => .done : ImportMove δ).stage? := by
  have writes := perform_writes good.intake relies input
  rcases writes.change with ⟨touched, intakeChange, holds⟩
  refine ⟨⟨touched, .submitted intakeChange, holds⟩, ?_⟩
  intro next isNext
  cases isMove : (stage.perform input store.intake).2 with
  | next goesOn =>
      rw [isMove] at isNext
      cases isNext
      exact writes.next goesOn isMove
  | answers | publishes | raises =>
      rw [isMove] at isNext
      cases isNext

variable [SourceDrafts δ] [TargetValidation]

/-- Every statement writes under the line that its client holds, and leaves what the next one
relies on. -/
theorem importPerform_writes (good : ImportGood store) {stage : ImportStage δ}
    (relies : stage.Relies store) (input : ImportInput δ) :
    ImportWrites store stage (stage.perform input store).1
      (stage.perform input store).2.stage? := by
  cases stage with
  | readImport merchantId importId =>
      refine writes_of_change importChange_kept ?_
      intro next isNext
      change (readImport store merchantId importId).stage? = some next at isNext
      unfold readImport at isNext
      split at isNext
      · cases isNext
      · next record isRead =>
          cases isNext
          exact known_of_mem (read_eq_some_iff.mp isRead).1
  | readSettled record => exact readSettled_writes relies
  | submitting record stage => exact submitting_writes good relies input.intake
  | linking record submission snapshot alreadyConfirmed =>
      rcases relies with ⟨known, isSubmitted⟩
      rcases link_writes good known isSubmitted alreadyConfirmed input.now with ⟨change, goesOn⟩
      refine writes_of_change change ?_
      intro next isNext
      cases isMove : (link store record snapshot alreadyConfirmed input.now).2 with
      | next stage =>
          change (link store record snapshot alreadyConfirmed input.now).2.stage? =
            some next at isNext
          rw [isMove] at isNext
          cases isNext
          rcases goesOn next isMove with ⟨rfl, isLink⟩
          exact isLink
      | returns | done | refuses | raises =>
          change (link store record snapshot alreadyConfirmed input.now).2.stage? =
            some next at isNext
          rw [isMove] at isNext
          cases isNext
  | readLinked record snapshot alreadyConfirmed =>
      rcases readLinked_writes good relies alreadyConfirmed with ⟨change, isDone⟩
      refine writes_of_change change ?_
      intro next isNext
      cases isDone.symm.trans isNext
  | intake stage => exact intake_writes good relies input.intake
  | readMerchant request =>
      refine writes_of_change importChange_kept ?_
      intro next isNext
      change (readImportMerchant store request).stage? = some next at isNext
      unfold readImportMerchant at isNext
      split at isNext
      · cases isNext
      · split at isNext <;> cases isNext
        trivial
  | readKey request targets =>
      refine writes_of_change importChange_kept ?_
      intro next isNext
      change (readKey store request targets).stage? = some next at isNext
      unfold readKey at isNext
      split at isNext
      · exact absurd isNext stage?_sameImport
      · cases isNext
        trivial
  | fetching request targets =>
      refine writes_of_change (.fetched _) ?_
      intro next isNext
      cases isNext
      trivial
  | inserting request targets failure draft =>
      refine writes_of_change insertImport_writes ?_
      intro next isNext
      change (insertImport store input.importId request targets failure draft).2.stage? =
        some next at isNext
      unfold insertImport at isNext
      dsimp only at isNext
      split at isNext
      · cases isNext
        trivial
      · split at isNext <;> cases isNext
        trivial
  | readDuplicate request targets =>
      refine writes_of_change importChange_kept ?_
      intro next isNext
      change (readDuplicateImport store request targets).stage? = some next at isNext
      unfold readDuplicateImport at isNext
      split at isNext
      · exact absurd isNext stage?_sameImport
      · cases isNext

variable (δ) in
/-- The discipline of imports: a source line is held by one client. -/
def importDiscipline : System.Discipline (ImportStore δ) (ImportStage δ) where
  shared := ImportGood
  relies store stage := stage.Relies store
  apart first second :=
    ∀ merchantId, first.holdsLine = some merchantId → second.holdsLine ≠ some merchantId

theorem importSystem_keeps :
    System.Keeps (importSystem δ) (importLines δ) (importDiscipline δ) where
  symmetric apart merchantId second first := apart merchantId first second
  enterRelies call _ _ := by
    cases call with
    | confirm | start => trivial
    | intake call => cases call <;> trivial
  enterApart call _ := by
    intro merchantId holds
    cases call with
    | confirm | start => cases holds
    | intake call => cases call <;> cases holds
  actShared input stage store good relies := by
    rcases (importPerform_writes good relies input).change with ⟨_, change, _⟩
    exact good.change change
  actRelies input stage store next good relies goesOn :=
    (importPerform_writes good relies input).next next goesOn
  actOthers input stage store other good relies others apart := by
    rcases (importPerform_writes good relies input).change with ⟨_, change, holds⟩
    exact others.change change fun merchantId otherHolds isTouched =>
      apart merchantId (holds merchantId isTouched) otherHolds
  actApart _ _ _ _ _ _ _ _ _ _ beside := beside
  outsideShared event := nomatch event
  outsideOthers event := nomatch event

end Discipline

end AgentRank.Importer
