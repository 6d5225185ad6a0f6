import AgentRank.Representation.Intake

/-!
# The history of a source

The client that holds the source line of a merchant is the only one that writes about it, so what
it reads stays as it read it until it commits.  Every snapshot of a submission therefore follows
the highest version of its key, says something else than the snapshot before it, and stands under
the only submission of its request key.
-/

namespace AgentRank.Representation

open Constraints Relational Store Transition

variable {row : SnapshotRow}

section Rows

variable {rows : List SnapshotRow} {merchantId : Uuid} {key : String}

/-- The rows of a merchant. -/
def rowsOf (rows : List SnapshotRow) (merchantId : Uuid) : List SnapshotRow :=
  rows.filter fun row => row.merchantId = merchantId

theorem mem_rowsOf :
    row ∈ rowsOf rows merchantId ↔ row ∈ rows ∧ row.merchantId = merchantId := by
  simp [rowsOf]

theorem rowsOf_append_of_ne (other : row.merchantId ≠ merchantId) :
    rowsOf (rows ++ [row]) merchantId = rowsOf rows merchantId := by
  simp [rowsOf, other]

theorem currentOf_congr {others : List SnapshotRow}
    (same : rowsOf others merchantId = rowsOf rows merchantId) :
    currentOf others merchantId = currentOf rows merchantId :=
  congrArg (List.argmax SnapshotRow.writeOrder) same

theorem versionsOf_eq (rows : List SnapshotRow) (merchantId : Uuid) (key : String) :
    versionsOf rows merchantId key =
      ((rowsOf rows merchantId).filter fun row => row.sourceKey = key).map
        fun row => row.sourceVersion := by
  rw [versionsOf, rowsOf, List.filter_filter]
  congr 2
  funext row
  exact Bool.and_comm _ _

theorem nextVersion_congr {others : List SnapshotRow}
    (same : rowsOf others merchantId = rowsOf rows merchantId) :
    nextVersion others merchantId key = nextVersion rows merchantId key := by
  rw [nextVersion, nextVersion, versionsOf_eq, versionsOf_eq, same]

theorem mem_versionsOf {version : Int} :
    version ∈ versionsOf rows merchantId key ↔
      ∃ row ∈ rows, row.merchantId = merchantId ∧ row.sourceKey = key ∧
        row.sourceVersion = version := by
  simp [versionsOf, and_assoc]

/-- The next version is above every version of the key. -/
theorem lt_nextVersion {version : Int} (member : version ∈ versionsOf rows merchantId key) :
    version < nextVersion rows merchantId key := by
  unfold nextVersion
  split
  · next none =>
      rw [List.max?_eq_none_iff] at none
      rw [none] at member
      cases member
  · next highest isHighest =>
      have bound := (List.max?_eq_some_iff.mp isHighest).2 version member
      omega

theorem currentOf_mem (isCurrent : currentOf rows merchantId = some row) :
    row ∈ rows ∧ row.merchantId = merchantId :=
  mem_rowsOf.mp (List.argmax_mem isCurrent)

/-- Where rows were written in their order, the current one stands last. -/
theorem currentOf_eq_getLast?
    (ordered : rows.Pairwise fun first second => first.merchantId = second.merchantId →
      first.writeOrder < second.writeOrder) (merchantId : Uuid) :
    currentOf rows merchantId = (rowsOf rows merchantId).getLast? := by
  have within : (rowsOf rows merchantId).Pairwise
      fun first second => first.writeOrder < second.writeOrder := by
    refine (ordered.sublist List.filter_sublist).imp_of_mem ?_
    intro first second firstMem secondMem increases
    exact increases ((mem_rowsOf.mp firstMem).2.trans (mem_rowsOf.mp secondMem).2.symm)
  change (rowsOf rows merchantId).argmax SnapshotRow.writeOrder = _
  generalize rowsOf rows merchantId = listed at within
  rcases List.eq_nil_or_concat listed with rfl | ⟨earlier, last, rfl⟩
  · rfl
  · rw [List.concat_eq_append] at within ⊢
    rw [List.getLast?_concat, List.argmax_concat]
    cases isGreatest : earlier.argmax SnapshotRow.writeOrder with
    | none => rfl
    | some greatest =>
        exact if_pos ((List.pairwise_append.mp within).2.2 greatest (List.argmax_mem isGreatest)
          last (List.mem_singleton_self last))

end Rows

variable {submission : MerchantSourceSubmission} {merchantId : Uuid}

section Good

variable {store : IntakeStore}

/-- A submission wrote a snapshot. -/
def CreatedBy (submissions : Table MerchantSourceSubmission) (row : SnapshotRow) : Prop :=
  ∃ submission ∈ submissions, submission.createdSnapshot = true ∧
    submission.sourceSnapshotId = row.id

/-- A snapshot continues the ones before it: it follows the highest version of its key, and
says something else than the snapshot of the merchant that was written before it. -/
structure Continues (before : List SnapshotRow) (row : SnapshotRow) : Prop where
  version : row.sourceVersion = nextVersion before row.merchantId row.sourceKey
  evidence : ∀ previous, currentOf before row.merchantId = some previous →
    evidenceText previous.payload ≠ evidenceText row.payload

/-- A store whose snapshots were written in order, and whose submissions continue them. -/
structure IntakeGood (store : IntakeStore) : Prop where
  positive : ∀ row ∈ store.snapshots, 1 ≤ row.sourceVersion
  bounded : ∀ row ∈ store.snapshots, row.writeOrder ≤ store.sequence
  ordered : store.snapshots.rows.Pairwise fun first second =>
    first.merchantId = second.merchantId → first.writeOrder < second.writeOrder
  versions : store.snapshots.rows.Pairwise fun first second =>
    first.merchantId = second.merchantId → first.sourceKey = second.sourceKey →
      first.sourceVersion ≠ second.sourceVersion
  keys : ∀ first ∈ store.submissions, ∀ second ∈ store.submissions,
    first.merchantId = second.merchantId → first.requestKey = second.requestKey → first = second
  named : ∀ submission ∈ store.submissions, ∃ row ∈ store.snapshots,
    row.id = submission.sourceSnapshotId ∧ row.merchantId = submission.merchantId
  console : ∀ before row after, store.snapshots.rows = before ++ row :: after →
    CreatedBy store.submissions row → Continues before row

theorem intakeGood_opening (merchants : Table SourceMerchant) :
    IntakeGood (.opening merchants) where
  positive _ member := by cases member
  bounded _ member := by cases member
  ordered := .nil
  versions := .nil
  keys _ member := by cases member
  named _ member := by cases member
  console before row after isSplit := by
    have isEmpty : before ++ row :: after = [] := isSplit.symm
    simp at isEmpty

variable {requestKey : String}

theorem submission?_eq_some (found : store.submission? merchantId requestKey = some submission) :
    submission ∈ store.submissions ∧ submission.merchantId = merchantId ∧
      submission.requestKey = requestKey := by
  have holds := List.find?_some found
  simp only [Bool.and_eq_true, decide_eq_true_eq] at holds
  exact ⟨List.mem_of_find?_eq_some found, holds⟩

theorem submission?_eq_none_iff :
    store.submission? merchantId requestKey = none ↔
      ∀ submission ∈ store.submissions, submission.merchantId = merchantId →
        submission.requestKey ≠ requestKey := by
  rw [IntakeStore.submission?, List.find?_eq_none]
  simp [Table.mem_def]

/-- A request key that was stored is answered with its submission and its snapshot. -/
theorem settled?_eq_some_iff {snapshot : SnapshotRow} :
    store.settled? merchantId requestKey = some (submission, snapshot) ↔
      store.submission? merchantId requestKey = some submission ∧
        snapshot ∈ store.snapshots ∧ snapshot.id = submission.sourceSnapshotId := by
  rw [IntakeStore.settled?, Option.bind_eq_some_iff]
  constructor
  · rintro ⟨other, found, isSettled⟩
    obtain ⟨row, isRow, same⟩ := Option.map_eq_some_iff.mp isSettled
    cases same
    exact ⟨found, Table.get?_eq_some_iff.mp isRow⟩
  · rintro ⟨found, member, isNamed⟩
    exact ⟨submission, found, Option.map_eq_some_iff.mpr
      ⟨snapshot, Table.get?_eq_some_iff.mpr ⟨member, isNamed⟩, rfl⟩⟩

theorem IntakeGood.settled?_eq_none_iff (good : IntakeGood store) :
    store.settled? merchantId requestKey = none ↔ store.submission? merchantId requestKey = none := by
  constructor
  · intro unsettled
    cases found : store.submission? merchantId requestKey with
    | none => rfl
    | some submission =>
        obtain ⟨row, member, isNamed, _⟩ :=
          good.named submission (submission?_eq_some found).1
        cases unsettled.symm.trans (settled?_eq_some_iff.mpr ⟨found, member, isNamed⟩)
  · intro absent
    rw [IntakeStore.settled?, absent]
    rfl

end Good

/-! ## What happens to a store -/

/-- A row that can be written next. -/
structure WritesNext (store : IntakeStore) (row : SnapshotRow) : Prop where
  positive : 1 ≤ row.sourceVersion
  bounded : row.writeOrder ≤ store.sequence
  later : ∀ other ∈ store.snapshots, other.merchantId = row.merchantId →
    other.writeOrder < row.writeOrder
  untaken : ∀ other ∈ store.snapshots, other.merchantId = row.merchantId →
    other.sourceKey = row.sourceKey → other.sourceVersion ≠ row.sourceVersion

/-- What can happen to a store, and the merchant whose source line it is written under. -/
inductive IntakeChange (store : IntakeStore) : Option Uuid → IntakeStore → Prop
  | kept : IntakeChange store none store
  | drawn : IntakeChange store none { store with sequence := store.sequence + 1 }
  | created (row : SnapshotRow) (submission : MerchantSourceSubmission)
      (snapshots : Table SnapshotRow) (submissions : Table MerchantSourceSubmission)
      (writes : WritesNext store row) (continues : Continues store.snapshots.rows row)
      (merchant : submission.merchantId = row.merchantId)
      (names : submission.sourceSnapshotId = row.id)
      (isNew : store.submission? submission.merchantId submission.requestKey = none)
      (inserted : store.snapshots.insert? row = some snapshots)
      (recorded : store.submissions.insert? submission = some submissions) :
      IntakeChange store (some row.merchantId)
        { store with snapshots := snapshots, submissions := submissions }
  | unchanged (row : SnapshotRow) (submission : MerchantSourceSubmission)
      (submissions : Table MerchantSourceSubmission) (member : row ∈ store.snapshots)
      (merchant : submission.merchantId = row.merchantId)
      (names : submission.sourceSnapshotId = row.id)
      (notCreated : submission.createdSnapshot = false)
      (isNew : store.submission? submission.merchantId submission.requestKey = none)
      (recorded : store.submissions.insert? submission = some submissions) :
      IntakeChange store (some row.merchantId) { store with submissions := submissions }
  | published (row : SnapshotRow) (snapshots : Table SnapshotRow) (writes : WritesNext store row)
      (inserted : store.snapshots.insert? row = some snapshots) :
      IntakeChange store (some row.merchantId) { store with snapshots := snapshots }

/-- What the line of a merchant leaves as it was. -/
structure SameLine (store result : IntakeStore) (merchantId : Uuid) : Prop where
  rows : rowsOf result.snapshots.rows merchantId = rowsOf store.snapshots.rows merchantId
  submissions : ∀ requestKey,
    result.submission? merchantId requestKey = store.submission? merchantId requestKey
  sequence : store.sequence ≤ result.sequence

section Changes

variable {store result : IntakeStore} {touched : Option Uuid}

theorem submission?_append_of_ne {submissions : Table MerchantSourceSubmission}
    (recorded : store.submissions.insert? submission = some submissions)
    (other : submission.merchantId ≠ merchantId) (requestKey : String) :
    submissions.rows.find? (fun row => row.merchantId = merchantId && row.requestKey = requestKey) =
      store.submission? merchantId requestKey := by
  rw [(Table.insert?_eq_some_iff.mp recorded).2, List.find?_append, List.find?_singleton,
    if_neg (by simp [other]), Option.or_none]
  rfl

/-- The lines of the other merchants see nothing of a change. -/
theorem IntakeChange.sameLine (change : IntakeChange store touched result)
    (untouched : touched ≠ some merchantId) : SameLine store result merchantId := by
  cases change with
  | kept => exact ⟨rfl, fun _ => rfl, le_rfl⟩
  | drawn => exact ⟨rfl, fun _ => rfl, Nat.le_succ _⟩
  | created row submission snapshots submissions _ _ merchant _ _ inserted recorded =>
      have other : row.merchantId ≠ merchantId := fun same => untouched (congrArg some same)
      refine ⟨?_, submission?_append_of_ne recorded (merchant ▸ other), le_rfl⟩
      change rowsOf snapshots.rows merchantId = _
      rw [(Table.insert?_eq_some_iff.mp inserted).2, rowsOf_append_of_ne other]
  | unchanged row submission submissions _ merchant _ _ _ recorded =>
      have other : row.merchantId ≠ merchantId := fun same => untouched (congrArg some same)
      exact ⟨rfl, submission?_append_of_ne recorded (merchant ▸ other), le_rfl⟩
  | published row snapshots _ inserted =>
      have other : row.merchantId ≠ merchantId := fun same => untouched (congrArg some same)
      refine ⟨?_, fun _ => rfl, le_rfl⟩
      change rowsOf snapshots.rows merchantId = _
      rw [(Table.insert?_eq_some_iff.mp inserted).2, rowsOf_append_of_ne other]

/-- Rows are only appended. -/
structure Appends (store result : IntakeStore) : Prop where
  merchants : result.merchants = store.merchants
  snapshots : store.snapshots.rows <+: result.snapshots.rows
  submissions : store.submissions.rows <+: result.submissions.rows

theorem Appends.refl (store : IntakeStore) : Appends store store :=
  ⟨rfl, List.prefix_rfl, List.prefix_rfl⟩

theorem Appends.trans {first second third : IntakeStore} (earlier : Appends first second)
    (later : Appends second third) : Appends first third where
  merchants := later.merchants.trans earlier.merchants
  snapshots := earlier.snapshots.trans later.snapshots
  submissions := earlier.submissions.trans later.submissions

theorem prefix_of_insert? {ρ : Type} {κ : Type} [Keyed ρ κ] [DecidableEq κ]
    {table inserted : Table ρ} {row : ρ} (isInserted : table.insert? row = some inserted) :
    table.rows <+: inserted.rows :=
  ⟨[row], (Table.insert?_eq_some_iff.mp isInserted).2.symm⟩

theorem IntakeChange.appends (change : IntakeChange store touched result) :
    Appends store result := by
  cases change with
  | kept => exact .refl store
  | drawn => exact ⟨rfl, List.prefix_rfl, List.prefix_rfl⟩
  | created _ _ _ _ _ _ _ _ _ inserted recorded =>
      exact ⟨rfl, prefix_of_insert? inserted, prefix_of_insert? recorded⟩
  | unchanged _ _ _ _ _ _ _ _ recorded =>
      exact ⟨rfl, List.prefix_rfl, prefix_of_insert? recorded⟩
  | published _ _ _ inserted => exact ⟨rfl, prefix_of_insert? inserted, List.prefix_rfl⟩

/-! ## Good histories stay good -/

/-- A row that is written next states a version, in the order of writes. -/
theorem WritesNext.stated (writes : WritesNext store row) (good : IntakeGood store)
    {snapshots : Table SnapshotRow} (inserted : store.snapshots.insert? row = some snapshots) :
    ∀ other ∈ snapshots, 1 ≤ other.sourceVersion ∧ other.writeOrder ≤ store.sequence := by
  intro other otherMem
  rcases (Table.mem_insert?_iff inserted).mp otherMem with isOld | rfl
  · exact ⟨good.positive other isOld, good.bounded other isOld⟩
  · exact ⟨writes.positive, writes.bounded⟩

/-- A row that is written next keeps the order and the versions. -/
theorem WritesNext.pairwise (writes : WritesNext store row) (good : IntakeGood store) :
    (store.snapshots.rows ++ [row]).Pairwise (fun first second =>
        first.merchantId = second.merchantId → first.writeOrder < second.writeOrder) ∧
      (store.snapshots.rows ++ [row]).Pairwise fun first second =>
        first.merchantId = second.merchantId → first.sourceKey = second.sourceKey →
          first.sourceVersion ≠ second.sourceVersion := by
  constructor
  · refine List.pairwise_append.mpr ⟨good.ordered, List.pairwise_singleton _ _, ?_⟩
    intro first firstMem second secondMem
    rw [List.mem_singleton.mp secondMem]
    exact writes.later first firstMem
  · refine List.pairwise_append.mpr ⟨good.versions, List.pairwise_singleton _ _, ?_⟩
    intro first firstMem second secondMem
    rw [List.mem_singleton.mp secondMem]
    exact writes.untaken first firstMem

/-- A row that is split off a longer list is one of the list, or the last one. -/
theorem split_append_singleton {α : Type} {items before after : List α} {item last : α}
    (isSplit : items ++ [last] = before ++ item :: after) :
    (before = items ∧ item = last) ∨ ∃ rest, items = before ++ item :: rest := by
  rcases List.eq_nil_or_concat after with rfl | ⟨earlier, final, rfl⟩
  · obtain ⟨rfl, same⟩ := List.append_inj' isSplit rfl
    exact Or.inl ⟨rfl, (List.singleton_inj.mp same).symm⟩
  · refine Or.inr ⟨earlier, ?_⟩
    rw [List.concat_eq_append, ← List.cons_append, ← List.append_assoc] at isSplit
    exact (List.append_inj' isSplit rfl).1

/-- A submission under a new key keeps the keys apart. -/
theorem keys_of_new {submissions : Table MerchantSourceSubmission} (good : IntakeGood store)
    (isNew : store.submission? submission.merchantId submission.requestKey = none)
    (recorded : store.submissions.insert? submission = some submissions) :
    ∀ first ∈ submissions, ∀ second ∈ submissions, first.merchantId = second.merchantId →
      first.requestKey = second.requestKey → first = second := by
  rw [submission?_eq_none_iff] at isNew
  intro first firstMem second secondMem sameMerchant sameKey
  rcases (Table.mem_insert?_iff recorded).mp firstMem with isFirst | rfl <;>
    rcases (Table.mem_insert?_iff recorded).mp secondMem with isSecond | rfl
  · exact good.keys first isFirst second isSecond sameMerchant sameKey
  · exact absurd sameKey (isNew first isFirst sameMerchant)
  · exact absurd sameKey.symm (isNew second isSecond sameMerchant.symm)
  · rfl

/-- Every change keeps a history good. -/
theorem IntakeGood.change (good : IntakeGood store) (change : IntakeChange store touched result) :
    IntakeGood result := by
  cases change with
  | kept => exact good
  | drawn =>
      exact { good with bounded := fun row member => (good.bounded row member).trans (Nat.le_succ _) }
  | unchanged row submission submissions member merchant names notCreated isNew recorded =>
      refine { good with
        keys := keys_of_new good isNew recorded
        named := ?_
        console := ?_ }
      · intro other otherMem
        rcases (Table.mem_insert?_iff recorded).mp otherMem with isOld | rfl
        · exact good.named other isOld
        · exact ⟨row, member, names.symm, merchant.symm⟩
      · intro before item after isSplit createdBy
        refine good.console before item after isSplit ?_
        obtain ⟨other, otherMem, created, isNamed⟩ := createdBy
        rcases (Table.mem_insert?_iff recorded).mp otherMem with isOld | rfl
        · exact ⟨other, isOld, created, isNamed⟩
        · cases notCreated.symm.trans created
  | published row snapshots writes inserted =>
      have appended := (Table.insert?_eq_some_iff.mp inserted).2
      refine
        { positive := fun other member => (writes.stated good inserted other member).1
          bounded := fun other member => (writes.stated good inserted other member).2
          ordered := appended ▸ (writes.pairwise good).1
          versions := appended ▸ (writes.pairwise good).2
          keys := good.keys
          named := ?_
          console := ?_ }
      · intro submission submissionMem
        obtain ⟨named, namedMem, isNamed⟩ := good.named submission submissionMem
        exact ⟨named, (Table.mem_insert?_iff inserted).mpr (Or.inl namedMem), isNamed⟩
      · intro before item after isSplit createdBy
        change snapshots.rows = _ at isSplit
        rw [appended] at isSplit
        rcases split_append_singleton isSplit with ⟨rfl, rfl⟩ | ⟨rest, isOld⟩
        · obtain ⟨submission, submissionMem, _, isNamed⟩ := createdBy
          obtain ⟨named, namedMem, sameId, _⟩ := good.named submission submissionMem
          exact absurd (sameId.trans isNamed) ((Table.insert?_eq_some_iff.mp inserted).1 named namedMem)
        · exact good.console before item rest isOld createdBy
  | created row submission snapshots submissions writes continues merchant names isNew inserted
      recorded =>
      have appended := (Table.insert?_eq_some_iff.mp inserted).2
      refine
        { positive := fun other member => (writes.stated good inserted other member).1
          bounded := fun other member => (writes.stated good inserted other member).2
          ordered := appended ▸ (writes.pairwise good).1
          versions := appended ▸ (writes.pairwise good).2
          keys := keys_of_new good isNew recorded
          named := ?_
          console := ?_ }
      · intro other otherMem
        rcases (Table.mem_insert?_iff recorded).mp otherMem with isOld | rfl
        · obtain ⟨named, namedMem, isNamed⟩ := good.named other isOld
          exact ⟨named, (Table.mem_insert?_iff inserted).mpr (Or.inl namedMem), isNamed⟩
        · exact ⟨row, (Table.mem_insert?_iff inserted).mpr (Or.inr rfl), names.symm, merchant.symm⟩
      · intro before item after isSplit createdBy
        change snapshots.rows = _ at isSplit
        rw [appended] at isSplit
        rcases split_append_singleton isSplit with ⟨rfl, rfl⟩ | ⟨rest, isOld⟩
        · exact continues
        · refine good.console before item rest isOld ?_
          obtain ⟨other, otherMem, isCreated, isNamed⟩ := createdBy
          rcases (Table.mem_insert?_iff recorded).mp otherMem with isOldSubmission | rfl
          · exact ⟨other, isOldSubmission, isCreated, isNamed⟩
          · have itemMem : item ∈ store.snapshots := by
              rw [Table.mem_def, isOld]
              exact List.mem_append_right _ List.mem_cons_self
            exact absurd (isNamed.symm.trans names)
              ((Table.insert?_eq_some_iff.mp inserted).1 item itemMem)

end Changes

/-! ## What a stage relies on -/

/-- What a submission states, as it was read from its document. -/
def Submitting.Reads (work : Submitting) : Prop :=
  ∃ evidence, work.call.document.evidence = .ok evidence ∧ work.submitted = evidence.canonical

/-- The request key of a submission was not stored, and the base that it states is current. -/
structure Submittable (store : IntakeStore) (work : Submitting) : Prop where
  reads : work.Reads
  unsettled : store.submission? work.call.merchantId work.call.requestKey = none
  base : requireBase (store.current work.call.merchantId) work.call.baseSourceSnapshotId = true

/-- A definition that a submission is about to write. -/
structure Writable [FieldOrder] (store : IntakeStore) (work : Submitting)
    (definition : MerchantSourceDefinition) : Prop where
  submittable : Submittable store work
  positive : 1 ≤ definition.version
  version : definition.version =
    nextVersion store.snapshots.rows work.call.merchantId definition.key
  states : evidenceText definition.payload.stored = work.submitted
  isNew : ∀ previous, store.current work.call.merchantId = some previous →
    evidenceText previous.payload ≠ work.submitted

/-- A number that was drawn for the next snapshot of a merchant. -/
structure DrawnFor (store : IntakeStore) (merchantId : Uuid) (writeOrder : Nat) : Prop where
  bounded : writeOrder ≤ store.sequence
  later : ∀ row ∈ rowsOf store.snapshots.rows merchantId, row.writeOrder < writeOrder

/-- The version of a publication is free. -/
def Publishable (store : IntakeStore) (merchantId : Uuid)
    (definition : MerchantSourceDefinition) : Prop :=
  ∀ row ∈ rowsOf store.snapshots.rows merchantId, row.sourceKey = definition.key →
    row.sourceVersion ≠ definition.version

/-- What a stage relies on. -/
def IntakeStage.Relies [FieldOrder] (store : IntakeStore) : IntakeStage → Prop
  | readMerchant _ | findMerchant _ | claimPublication _ _ | readExisting _ _ => True
  | readSettled work | claimLine work | readAgain work => work.Reads
  | readCurrent work =>
      work.Reads ∧ store.submission? work.call.merchantId work.call.requestKey = none
  | readVersion work current =>
      Submittable store work ∧ current = store.current work.call.merchantId
  | insertSnapshot work definition => Writable store work definition.fields
  | recordCreated work definition writeOrder =>
      Writable store work definition.fields ∧ DrawnFor store work.call.merchantId writeOrder
  | recordUnchanged work current =>
      Submittable store work ∧ store.current work.call.merchantId = some current ∧
        evidenceText current.payload = work.submitted
  | insertPublication definition merchantId => Publishable store merchantId definition.fields
  | commitPublication definition merchantId writeOrder =>
      Publishable store merchantId definition.fields ∧ DrawnFor store merchantId writeOrder
  | readDuplicate _ _ | retry _ | recoverPublication _ _ => False

/-- The discipline of the intake: a source line is held by one client. -/
def intakeDiscipline [FieldOrder] : System.Discipline IntakeStore IntakeStage where
  shared := IntakeGood
  relies store stage := stage.Relies store
  apart first second :=
    ∀ merchantId, first.holdsLine = some merchantId → second.holdsLine ≠ some merchantId

variable {stage : IntakeStage}

section Relies

variable {store result : IntakeStore} {work : Submitting} {merchantId : Uuid}

theorem SameLine.current (same : SameLine store result merchantId) :
    result.current merchantId = store.current merchantId :=
  currentOf_congr same.rows

theorem Submittable.sameLine (submittable : Submittable store work)
    (same : SameLine store result work.call.merchantId) : Submittable result work where
  reads := submittable.reads
  unsettled := (same.submissions _).trans submittable.unsettled
  base := by
    rw [same.current]
    exact submittable.base

theorem Writable.sameLine [FieldOrder] {definition : MerchantSourceDefinition}
    (writable : Writable store work definition)
    (same : SameLine store result work.call.merchantId) : Writable result work definition where
  submittable := writable.submittable.sameLine same
  positive := writable.positive
  version := writable.version.trans (nextVersion_congr same.rows).symm
  states := writable.states
  isNew := by
    rw [same.current]
    exact writable.isNew

theorem DrawnFor.sameLine {writeOrder : Nat} (drawn : DrawnFor store merchantId writeOrder)
    (same : SameLine store result merchantId) : DrawnFor result merchantId writeOrder where
  bounded := drawn.bounded.trans same.sequence
  later := by
    rw [same.rows]
    exact drawn.later

theorem Publishable.sameLine {definition : MerchantSourceDefinition}
    (publishable : Publishable store merchantId definition)
    (same : SameLine store result merchantId) : Publishable result merchantId definition := by
  unfold Publishable
  rw [same.rows]
  exact publishable

/-- What the others do about other merchants leaves a stage what it relies on. -/
theorem IntakeStage.Relies.sameLine [FieldOrder] (relies : stage.Relies store)
    (same : ∀ merchantId, stage.holdsLine = some merchantId → SameLine store result merchantId) :
    stage.Relies result := by
  cases stage with
  | readMerchant | findMerchant | claimPublication | readExisting => trivial
  | readSettled | claimLine | readAgain => exact relies
  | readCurrent => exact ⟨relies.1, ((same _ rfl).submissions _).trans relies.2⟩
  | readVersion =>
      exact ⟨relies.1.sameLine (same _ rfl), relies.2.trans (same _ rfl).current.symm⟩
  | insertSnapshot => exact Writable.sameLine relies (same _ rfl)
  | recordCreated => exact ⟨relies.1.sameLine (same _ rfl), relies.2.sameLine (same _ rfl)⟩
  | recordUnchanged =>
      exact ⟨relies.1.sameLine (same _ rfl), (same _ rfl).current.trans relies.2.1, relies.2.2⟩
  | insertPublication => exact Publishable.sameLine relies (same _ rfl)
  | commitPublication => exact ⟨relies.1.sameLine (same _ rfl), relies.2.sameLine (same _ rfl)⟩
  | readDuplicate | retry | recoverPublication => exact relies

end Relies

/-! ## The steps -/

section Steps

variable {store : IntakeStore} {work : Submitting} {input : IntakeInput}

variable {next : IntakeStage}

theorem readSettled_next (good : IntakeGood store) {goesOn : IntakeStage}
    (isNext : readSettled store work goesOn = .next next) :
    next = goesOn ∧ store.submission? work.call.merchantId work.call.requestKey = none := by
  unfold readSettled at isNext
  split at isNext
  · unfold sameRequest at isNext
    split at isNext <;> cases isNext
  · next unsettled =>
      cases isNext
      exact ⟨rfl, good.settled?_eq_none_iff.mp unsettled⟩

/-- The version that follows the highest one is not taken. -/
theorem not_isTaken_nextVersion (merchantId : Uuid) (key : String) :
    store.isTaken merchantId key (nextVersion store.snapshots.rows merchantId key) = false := by
  rw [IntakeStore.isTaken, List.contains_eq_mem, decide_eq_false_iff_not]
  intro member
  exact lt_irrefl _ (lt_nextVersion member)

theorem not_isTaken_of_publishable {definition : MerchantSourceDefinition}
    (publishable : Publishable store merchantId definition) :
    store.isTaken merchantId definition.key definition.version = false := by
  rw [IntakeStore.isTaken, List.contains_eq_mem, decide_eq_false_iff_not, mem_versionsOf]
  rintro ⟨row, member, merchant, isKey, version⟩
  exact publishable row (mem_rowsOf.mpr ⟨member, merchant⟩) isKey version

variable {definition : Made MerchantSourceDefinition}

/-- A number is drawn for a row that is not taken. -/
theorem insertRow_eq {inserted : Nat → IntakeStage} {refused : IntakeStage}
    (free : store.isTaken merchantId definition.fields.key definition.fields.version = false) :
    insertRow store definition merchantId inserted refused =
      if isStorable definition.fields then
        ({ store with sequence := store.sequence + 1 }, .next (inserted (store.sequence + 1)))
      else (store, .raises .dataError) := by
  unfold insertRow
  rw [free]
  cases isStorable definition.fields <;> rfl

theorem drawnFor_next (good : IntakeGood store) (merchantId : Uuid) :
    DrawnFor { store with sequence := store.sequence + 1 } merchantId (store.sequence + 1) where
  bounded := le_rfl
  later row member := Nat.lt_succ_of_le (good.bounded row (mem_rowsOf.mp member).1)

/-- A submission under a free key is written, unless the identifier that was drawn is taken. -/
theorem recordSubmission_eq {snapshots : Table SnapshotRow} {snapshot : SnapshotRow}
    {created : Bool} {again : IntakeStage}
    (unsettled : store.submission? work.call.merchantId work.call.requestKey = none)
    (uncreated : created = true → ∀ other ∈ store.submissions,
      other.sourceSnapshotId ≠ snapshot.id) :
    let submission : MerchantSourceSubmission :=
      { id := input.submissionId
        merchantId := work.call.merchantId
        requestKey := work.call.requestKey
        sourceSnapshotId := snapshot.id
        origin := work.call.origin
        createdSnapshot := created }
    recordSubmission store input work snapshots snapshot created again =
      match store.submissions.insert? submission with
      | none => (store, .next again)
      | some submissions =>
          ({ store with snapshots := snapshots, submissions := submissions },
            .answers submission snapshot) := by
  intro submission
  have single : (created && store.submissions.rows.any fun other =>
      other.createdSnapshot && other.sourceSnapshotId = snapshot.id) = false := by
    cases created with
    | false => rfl
    | true =>
        rw [Bool.true_and, List.any_eq_false]
        intro other otherMem isOther
        simp only [Bool.and_eq_true, decide_eq_true_eq] at isOther
        exact uncreated rfl other otherMem isOther.2
  unfold recordSubmission
  dsimp only
  rw [unsettled, single]
  rfl

/-- A new row is named by no submission. -/
theorem unnamed_of_inserted (good : IntakeGood store) {snapshots : Table SnapshotRow}
    (inserted : store.snapshots.insert? row = some snapshots) :
    ∀ submission ∈ store.submissions, submission.sourceSnapshotId ≠ row.id := by
  intro submission member isNamed
  obtain ⟨named, namedMem, sameId, _⟩ := good.named submission member
  exact (Table.insert?_eq_some_iff.mp inserted).1 named namedMem (sameId.trans isNamed)

variable [FieldOrder]

/-- How a step of a call ends that has written. -/
structure Writes (store : IntakeStore) (stage : IntakeStage) (result : IntakeStore)
    (move : IntakeMove) : Prop where
  change : ∃ touched, IntakeChange store touched result ∧
    ∀ merchantId, touched = some merchantId → stage.holdsLine = some merchantId
  next : ∀ next, move = .next next → next.Relies result

theorem writes_of_read {move : IntakeMove} (next : ∀ next, move = .next next → next.Relies store) :
    Writes store stage store move where
  change := ⟨none, .kept, nofun⟩
  next := next

theorem insertRow_writes {refused : IntakeStage} {inserted : Nat → IntakeStage}
    (free : store.isTaken merchantId definition.fields.key definition.fields.version = false)
    (relies : (inserted (store.sequence + 1)).Relies
      { store with sequence := store.sequence + 1 }) :
    Writes store stage (insertRow store definition merchantId inserted refused).1
      (insertRow store definition merchantId inserted refused).2 := by
  rw [insertRow_eq free]
  split
  · refine ⟨⟨none, .drawn, nofun⟩, fun next isNext => ?_⟩
    cases isNext
    exact relies
  · exact writes_of_read fun next isNext => by cases isNext

theorem recordUnchanged_writes {current : SnapshotRow} (submittable : Submittable store work)
    (isCurrent : store.current work.call.merchantId = some current)
    (same : evidenceText current.payload = work.submitted) :
    Writes store (.recordUnchanged work current)
      (recordSubmission store input work store.snapshots current false
        (.recordUnchanged work current)).1
      (recordSubmission store input work store.snapshots current false
        (.recordUnchanged work current)).2 := by
  obtain ⟨member, merchant⟩ := currentOf_mem isCurrent
  rw [recordSubmission_eq submittable.unsettled fun isTrue => by cases isTrue]
  split
  · refine writes_of_read fun next isNext => ?_
    cases isNext
    exact ⟨submittable, isCurrent, same⟩
  · next submissions recorded =>
      refine ⟨⟨some current.merchantId, ?_, ?_⟩, fun next isNext => by cases isNext⟩
      · exact .unchanged current _ submissions member merchant.symm rfl rfl
          submittable.unsettled recorded
      · rw [merchant]
        exact fun _ same => same

theorem readMerchant_next {call : SubmitCall} (isNext : readMerchant store call = .next next) :
    next.Relies store := by
  unfold readMerchant at isNext
  split at isNext
  · cases isNext
  · split at isNext
    · cases isNext
    · next evidence isEvidence =>
        cases isNext
        exact ⟨evidence, isEvidence, rfl⟩

theorem readVersion_next {current : Option SnapshotRow} (submittable : Submittable store work)
    (isCurrent : current = store.current work.call.merchantId)
    (isNext : readVersion store work current = .next next) : next.Relies store := by
  unfold readVersion at isNext
  dsimp only at isNext
  split at isNext
  · cases isNext
  · next definition isMade =>
      obtain ⟨evidence, isEvidence, isSubmitted⟩ := submittable.reads
      have states := (evidenceText_of_definition isEvidence isMade).trans isSubmitted.symm
      have fields : definition.fields.key =
            current.elim defaultSourceKey (fun snapshot => snapshot.sourceKey) ∧
          definition.fields.version = nextVersion store.snapshots.rows work.call.merchantId
            (current.elim defaultSourceKey fun snapshot => snapshot.sourceKey) := by
        obtain ⟨_, _, isMade⟩ := except_bind_eq_ok_iff.mp isMade
        rw [fields_of_make isMade]
        exact ⟨rfl, rfl⟩
      have positive := (sourceSound_iff.mp definition.sound).version
      have writable : (∀ previous, current = some previous →
          evidenceText previous.payload ≠ work.submitted) →
            Writable store work definition.fields := fun isNew =>
        ⟨submittable, positive, by rw [fields.1]; exact fields.2, states, isCurrent ▸ isNew⟩
      split at isNext
      · cases isNext
        exact writable nofun
      · next snapshot _ =>
          split at isNext
          · next same =>
              cases isNext
              exact ⟨submittable, isCurrent.symm, same⟩
          · next differs =>
              cases isNext
              refine writable fun previous isPrevious => ?_
              cases isPrevious
              exact differs

theorem Writable.publishable {definition : MerchantSourceDefinition}
    (writable : Writable store work definition) :
    Publishable store work.call.merchantId definition := by
  intro row member isKey version
  have below := lt_nextVersion (mem_versionsOf.mpr
    ⟨row, (mem_rowsOf.mp member).1, (mem_rowsOf.mp member).2, isKey, rfl⟩)
  rw [version, writable.version] at below
  exact lt_irrefl _ below

variable [ContentDigest]

theorem writesNext_snapshotRow {id : Uuid} {writeOrder : Nat}
    (drawn : DrawnFor store merchantId writeOrder)
    (publishable : Publishable store merchantId definition.fields) :
    WritesNext store (snapshotRow id merchantId definition writeOrder) where
  positive := (sourceSound_iff.mp definition.sound).version
  bounded := drawn.bounded
  later other member merchant := drawn.later other (mem_rowsOf.mpr ⟨member, merchant⟩)
  untaken other member merchant := publishable other (mem_rowsOf.mpr ⟨member, merchant⟩)

theorem Writable.continues {id : Uuid} {writeOrder : Nat}
    (writable : Writable store work definition.fields) :
    Continues store.snapshots.rows (snapshotRow id work.call.merchantId definition writeOrder) where
  version := writable.version
  evidence previous isPrevious := by
    have differs := writable.isNew previous isPrevious
    rwa [← writable.states] at differs

theorem recordCreated_writes (good : IntakeGood store) {writeOrder : Nat}
    (writable : Writable store work definition.fields)
    (drawn : DrawnFor store work.call.merchantId writeOrder) :
    Writes store (.recordCreated work definition writeOrder)
      (recordCreated store input work definition writeOrder).1
      (recordCreated store input work definition writeOrder).2 := by
  unfold recordCreated
  dsimp only
  split
  · refine writes_of_read fun next isNext => ?_
    cases isNext
    exact ⟨writable, drawn⟩
  · next snapshots inserted =>
      rw [recordSubmission_eq writable.submittable.unsettled fun _ => unnamed_of_inserted good inserted]
      split
      · refine writes_of_read fun next isNext => ?_
        cases isNext
        exact ⟨writable, drawn⟩
      · next submissions recorded =>
          refine ⟨⟨some work.call.merchantId, ?_, fun _ same => same⟩,
            fun next isNext => by cases isNext⟩
          exact .created _ _ snapshots submissions
            (writesNext_snapshotRow drawn writable.publishable) writable.continues rfl rfl
            writable.submittable.unsettled inserted recorded

theorem commitPublication_writes {writeOrder : Nat}
    (publishable : Publishable store merchantId definition.fields)
    (drawn : DrawnFor store merchantId writeOrder) :
    Writes store (.commitPublication definition merchantId writeOrder)
      (commitPublication store input definition merchantId writeOrder).1
      (commitPublication store input definition merchantId writeOrder).2 := by
  unfold commitPublication
  dsimp only
  split
  · refine writes_of_read fun next isNext => ?_
    cases isNext
    exact ⟨publishable, drawn⟩
  · next snapshots inserted =>
      refine ⟨⟨some merchantId, ?_, fun _ same => same⟩, fun next isNext => by cases isNext⟩
      exact .published _ snapshots (writesNext_snapshotRow drawn publishable) inserted

theorem readExisting_next
    (isNext : readExisting store definition merchantId
      (.next (.insertPublication definition merchantId)) = .next next) : next.Relies store := by
  unfold readExisting at isNext
  split at isNext
  · next absent =>
      cases isNext
      rw [IntakeStore.snapshotAt, List.find?_eq_none] at absent
      intro row member isKey version
      obtain ⟨rowMem, merchant⟩ := mem_rowsOf.mp member
      exact absent row rowMem (by simp [merchant, isKey, version])
  · split at isNext <;> cases isNext

/-- Every statement writes under the line that its client holds, and leaves what the next one
relies on. -/
theorem perform_writes (good : IntakeGood store) (relies : stage.Relies store)
    (input : IntakeInput) :
    Writes store stage (stage.perform input store).1 (stage.perform input store).2 := by
  cases stage with
  | readMerchant call => exact writes_of_read fun _ => readMerchant_next
  | readSettled work =>
      refine writes_of_read fun next isNext => ?_
      obtain ⟨rfl, _⟩ := readSettled_next good isNext
      exact relies
  | claimLine work =>
      refine writes_of_read fun next isNext => ?_
      cases isNext
      exact relies
  | readAgain work =>
      refine writes_of_read fun next isNext => ?_
      obtain ⟨rfl, unsettled⟩ := readSettled_next good isNext
      exact ⟨relies, unsettled⟩
  | readCurrent work =>
      refine writes_of_read fun next isNext => ?_
      change readCurrent store work = .next next at isNext
      unfold readCurrent at isNext
      dsimp only at isNext
      split at isNext
      · next isBase =>
          cases isNext
          exact ⟨⟨relies.1, relies.2, isBase⟩, rfl⟩
      · cases isNext
  | readVersion work current =>
      exact writes_of_read fun _ => readVersion_next relies.1 relies.2
  | insertSnapshot work definition =>
      have writable : Writable store work definition.fields := relies
      refine insertRow_writes ?_ ⟨⟨⟨writable.submittable.reads, writable.submittable.unsettled,
        writable.submittable.base⟩, writable.positive, writable.version, writable.states,
        writable.isNew⟩, drawnFor_next good _⟩
      rw [writable.version]
      exact not_isTaken_nextVersion _ _
  | recordCreated work definition writeOrder => exact recordCreated_writes good relies.1 relies.2
  | recordUnchanged work current => exact recordUnchanged_writes relies.1 relies.2.1 relies.2.2
  | findMerchant definition =>
      refine writes_of_read fun next isNext => ?_
      change findMerchant store definition = .next next at isNext
      unfold findMerchant at isNext
      split at isNext <;> cases isNext
      trivial
  | claimPublication definition merchantId =>
      refine writes_of_read fun next isNext => ?_
      cases isNext
      trivial
  | readExisting definition merchantId => exact writes_of_read fun _ => readExisting_next
  | insertPublication definition merchantId =>
      exact insertRow_writes (not_isTaken_of_publishable relies) ⟨relies, drawnFor_next good _⟩
  | commitPublication definition merchantId writeOrder =>
      exact commitPublication_writes relies.1 relies.2
  | readDuplicate | retry | recoverPublication => exact absurd relies id

theorem intakeSystem_keeps : System.Keeps intakeSystem sourceLines intakeDiscipline where
  symmetric apart merchantId second first := apart merchantId first second
  enterRelies call _ _ := by cases call <;> trivial
  enterApart call _ := by cases call <;> nofun
  actShared input stage store good relies := by
    obtain ⟨_, change, _⟩ := (perform_writes good relies input).change
    exact good.change change
  actRelies input stage store next good relies goesOn := by
    refine (perform_writes good relies input).next next ?_
    change ((stage.perform input store).2).stage? = some next at goesOn
    cases isMove : (stage.perform input store).2 with
    | next stage =>
        rw [isMove] at goesOn
        cases goesOn
        rfl
    | answers | publishes | raises =>
        rw [isMove] at goesOn
        cases goesOn
  actOthers input stage store other good relies others apart := by
    obtain ⟨_, change, holds⟩ := (perform_writes good relies input).change
    exact others.sameLine fun merchantId otherHolds =>
      change.sameLine fun isTouched => apart merchantId (holds merchantId isTouched) otherHolds
  actApart _ _ _ _ _ _ _ _ _ _ beside := beside
  outsideShared event := nomatch event
  outsideOthers event := nomatch event

end Steps

end AgentRank.Representation
