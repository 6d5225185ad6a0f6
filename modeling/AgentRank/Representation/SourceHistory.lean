import AgentRank.Representation.IntakeHistory

/-!
# What a merchant reads of a source

However submissions and publications interleave: the snapshots of a merchant are numbered and
ordered as they were written, a request key has one answer, and nothing is written over a
snapshot that the submission did not state.  Only a publication can leave out a version, since
it names its own.
-/

namespace AgentRank.Representation

open Constraints Relational Store Transition

abbrev IntakeWorld := World IntakeStore IntakeStage

/-! ## What a submission sees -/

/-- The submission that a stage is of. -/
def IntakeStage.work? : IntakeStage → Option Submitting
  | readSettled work | claimLine work | readAgain work | readCurrent work | readVersion work _
  | insertSnapshot work _ | recordCreated work _ _ | recordUnchanged work _
  | readDuplicate work _ | retry work => some work
  | _ => none

/-- What a submission is answered with: the submission under its request key, whose snapshot
carries the evidence that it submitted. -/
structure Answered (store : IntakeStore) (work : Submitting)
    (submission : MerchantSourceSubmission) (snapshot : SnapshotRow) : Prop where
  member : submission ∈ store.submissions
  merchant : submission.merchantId = work.call.merchantId
  requestKey : submission.requestKey = work.call.requestKey
  snapshotMember : snapshot ∈ store.snapshots
  named : snapshot.id = submission.sourceSnapshotId
  evidence : evidenceText snapshot.payload = work.submitted

/-- A step leaves the tables as they were. -/
def WritesNothing (store result : IntakeStore) : Prop :=
  result.snapshots = store.snapshots ∧ result.submissions = store.submissions

/-- What one step of a submission does. -/
structure SubmissionStep (store : IntakeStore) (work : Submitting) (stage : IntakeStage)
    (result : IntakeStore) (move : IntakeMove) : Prop where
  /-- It answers with the submission under its key. -/
  answers : ∀ submission snapshot, move = .answers submission snapshot →
    Answered result work submission snapshot
  /-- A key that was stored is answered, or refused, as its evidence agrees. -/
  replays : ∀ submission snapshot, Answered store work submission snapshot →
    stage = .readSettled work ∨ stage = .readAgain work → move = .answers submission snapshot
  refusesKey : ∀ submission, store.submission? work.call.merchantId work.call.requestKey =
      some submission → stage = .readSettled work ∨ stage = .readAgain work →
    (∀ snapshot, ¬ Answered store work submission snapshot) →
      move = sourceConflict "source_request_key_reused"
        "this submission key has already stored different source evidence" work.call.requestKey
  /-- Under a key that was stored, nothing is written. -/
  settled : (store.submission? work.call.merchantId work.call.requestKey).isSome = true →
    WritesNothing store result
  /-- Where the base is not the current snapshot, the submission is refused. -/
  refusesBase : requireBase (store.current work.call.merchantId)
      work.call.baseSourceSnapshotId = false → stage = .readCurrent work →
    move = sourceConflict "source_superseded"
      ("Your merchant information has changed since this page was opened, so submitting this" ++
        " would write over evidence you have not seen. Reload to edit your current source.")
      (toString work.call.merchantId)
  /-- And where it is not, nothing is written. -/
  base : requireBase (store.current work.call.merchantId)
      work.call.baseSourceSnapshotId = false → WritesNothing store result

section Submissions

variable {store : IntakeStore} {work : Submitting}

variable {submission : MerchantSourceSubmission}

/-- A request key that was stored is read with its snapshot. -/
theorem readSettled_of_stored (good : IntakeGood store)
    (found : store.submission? work.call.merchantId work.call.requestKey = some submission)
    (goesOn : IntakeStage) :
    ∃ snapshot ∈ store.snapshots, snapshot.id = submission.sourceSnapshotId ∧
      readSettled store work goesOn = sameRequest work submission snapshot := by
  obtain ⟨member, _⟩ := submission?_eq_some found
  obtain ⟨snapshot, snapshotMem, named, _⟩ := good.named submission member
  refine ⟨snapshot, snapshotMem, named, ?_⟩
  rw [readSettled, settled?_eq_some_iff.mpr ⟨found, snapshotMem, named⟩]

variable {snapshot : SnapshotRow}

theorem Answered.submission? (good : IntakeGood store)
    (answered : Answered store work submission snapshot) :
    store.submission? work.call.merchantId work.call.requestKey = some submission := by
  cases found : store.submission? work.call.merchantId work.call.requestKey with
  | none =>
      rw [submission?_eq_none_iff] at found
      exact absurd answered.requestKey (found submission answered.member answered.merchant)
  | some other =>
      obtain ⟨otherMem, merchant, requestKey⟩ := submission?_eq_some found
      rw [good.keys other otherMem submission answered.member
        (merchant.trans answered.merchant.symm) (requestKey.trans answered.requestKey.symm)]

/-- The evidence of what a key settled decides whether it is answered. -/
theorem readSettled_of_answered (good : IntakeGood store)
    (answered : Answered store work submission snapshot) (goesOn : IntakeStage) :
    readSettled store work goesOn = .answers submission snapshot := by
  obtain ⟨other, otherMem, named, isRead⟩ :=
    readSettled_of_stored good (answered.submission? good) goesOn
  obtain rfl := Table.eq_of_key_eq otherMem answered.snapshotMember
    (named.trans answered.named.symm)
  rw [isRead, sameRequest, if_neg (not_not.mpr answered.evidence)]

theorem readSettled_of_other (good : IntakeGood store)
    (found : store.submission? work.call.merchantId work.call.requestKey = some submission)
    (others : ∀ snapshot, ¬ Answered store work submission snapshot) (goesOn : IntakeStage) :
    readSettled store work goesOn = sourceConflict "source_request_key_reused"
      "this submission key has already stored different source evidence" work.call.requestKey := by
  obtain ⟨member, merchant, requestKey⟩ := submission?_eq_some found
  obtain ⟨snapshot, snapshotMem, named, isRead⟩ := readSettled_of_stored good found goesOn
  rw [isRead, sameRequest, if_pos]
  intro same
  exact others snapshot ⟨member, merchant, requestKey, snapshotMem, named, same⟩

theorem answered_of_readSettled {goesOn : IntakeStage}
    (isAnswer : readSettled store work goesOn = .answers submission snapshot) :
    Answered store work submission snapshot := by
  unfold readSettled at isAnswer
  split at isAnswer
  · next other row settled =>
      unfold sameRequest at isAnswer
      split at isAnswer
      · cases isAnswer
      · next same =>
          cases isAnswer
          obtain ⟨found, rowMem, named⟩ := settled?_eq_some_iff.mp settled
          obtain ⟨member, merchant, requestKey⟩ := submission?_eq_some found
          exact ⟨member, merchant, requestKey, rowMem, named, not_not.mp same⟩
  · cases isAnswer

theorem answered_of_record {snapshots : Table SnapshotRow} {row : SnapshotRow} {created : Bool}
    {again : IntakeStage} {input : IntakeInput}
    (unsettled : store.submission? work.call.merchantId work.call.requestKey = none)
    (uncreated : created = true → ∀ other ∈ store.submissions, other.sourceSnapshotId ≠ row.id)
    (rowMem : row ∈ snapshots) (evidence : evidenceText row.payload = work.submitted)
    (isAnswer : (recordSubmission store input work snapshots row created again).2 =
      .answers submission snapshot) :
    Answered (recordSubmission store input work snapshots row created again).1 work submission
      snapshot := by
  rw [recordSubmission_eq unsettled uncreated] at isAnswer ⊢
  split at isAnswer
  · cases isAnswer
  · next submissions recorded =>
      cases isAnswer
      exact ⟨(Table.mem_insert?_iff recorded).mpr (Or.inr rfl), rfl, rfl, rowMem, rfl, evidence⟩

variable [FieldOrder] [ContentDigest] {stage : IntakeStage}

theorem answered_of_perform (good : IntakeGood store) (relies : stage.Relies store)
    (isWork : stage.work? = some work) {input : IntakeInput}
    (isAnswer : (stage.perform input store).2 = .answers submission snapshot) :
    Answered (stage.perform input store).1 work submission snapshot := by
  cases stage with
  | readMerchant | findMerchant | claimPublication | readExisting | insertPublication
  | commitPublication | recoverPublication => cases isWork
  | readSettled | readAgain =>
      cases isWork
      exact answered_of_readSettled isAnswer
  | claimLine => cases isAnswer
  | readCurrent other =>
      change readCurrent store other = _ at isAnswer
      unfold readCurrent at isAnswer
      dsimp only at isAnswer
      split at isAnswer <;> cases isAnswer
  | readVersion other current =>
      change readVersion store other current = _ at isAnswer
      unfold readVersion at isAnswer
      dsimp only at isAnswer
      split at isAnswer
      · cases isAnswer
      · split at isAnswer
        · cases isAnswer
        · split at isAnswer <;> cases isAnswer
  | insertSnapshot other definition =>
      change (insertRow store definition _ _ _).2 = _ at isAnswer
      unfold insertRow at isAnswer
      split at isAnswer <;> cases isAnswer
  | recordCreated other definition writeOrder =>
      cases isWork
      obtain ⟨writable, drawn⟩ := relies
      change (recordCreated store input work definition writeOrder).2 = _ at isAnswer
      change Answered (recordCreated store input work definition writeOrder).1 _ _ _
      unfold recordCreated at isAnswer ⊢
      dsimp only at isAnswer ⊢
      split at isAnswer
      · cases isAnswer
      · next snapshots inserted =>
          exact answered_of_record writable.submittable.unsettled
            (fun _ => unnamed_of_inserted good inserted)
            ((Table.mem_insert?_iff inserted).mpr (Or.inr rfl)) writable.states isAnswer
  | recordUnchanged other current =>
      cases isWork
      obtain ⟨submittable, isCurrent, same⟩ := relies
      exact answered_of_record submittable.unsettled (fun isTrue => by cases isTrue)
        (currentOf_mem isCurrent).1 same isAnswer
  | readDuplicate | retry => exact absurd relies id

/-- A submission writes only where its key is free and its base is current. -/
theorem writesNothing_of_perform (relies : stage.Relies store) (isWork : stage.work? = some work)
    (input : IntakeInput)
    (refused : ¬ (store.submission? work.call.merchantId work.call.requestKey = none ∧
      requireBase (store.current work.call.merchantId) work.call.baseSourceSnapshotId = true)) :
    WritesNothing store (stage.perform input store).1 := by
  cases stage with
  | insertSnapshot other definition =>
      change WritesNothing store (insertRow store definition _ _ _).1
      unfold insertRow
      split <;> exact ⟨rfl, rfl⟩
  | recordCreated other definition writeOrder =>
      cases isWork
      exact absurd ⟨relies.1.submittable.unsettled, relies.1.submittable.base⟩ refused
  | recordUnchanged other current =>
      cases isWork
      exact absurd ⟨relies.1.unsettled, relies.1.base⟩ refused
  | insertPublication | commitPublication => cases isWork
  | _ => exact ⟨rfl, rfl⟩

theorem submissionStep (good : IntakeGood store) (relies : stage.Relies store)
    (isWork : stage.work? = some work) (input : IntakeInput) :
    SubmissionStep store work stage (stage.perform input store).1 (stage.perform input store).2 where
  answers submission snapshot isAnswer := answered_of_perform good relies isWork isAnswer
  replays submission snapshot answered isRead := by
    rcases isRead with rfl | rfl <;> exact readSettled_of_answered good answered _
  refusesKey submission found isRead others := by
    rcases isRead with rfl | rfl <;> exact readSettled_of_other good found others _
  settled isStored := by
    refine writesNothing_of_perform relies isWork input fun free => ?_
    rw [free.1] at isStored
    cases isStored
  refusesBase superseded isRead := by
    subst isRead
    change readCurrent store work = _
    unfold readCurrent
    dsimp only
    rw [superseded]
    rfl
  base superseded := by
    refine writesNothing_of_perform relies isWork input fun free => ?_
    cases superseded.symm.trans free.2

end Submissions

/-- The versions of a key, counted from one. -/
def Consecutive (versions : List Int) : Prop :=
  versions = (List.range versions.length).map fun index : Nat => (index : Int) + 1

instance (versions : List Int) : Decidable (Consecutive versions) :=
  inferInstanceAs (Decidable (_ = _))

theorem nextVersion_of_consecutive {rows : List SnapshotRow} {merchantId : Uuid} {key : String}
    (consecutive : Consecutive (versionsOf rows merchantId key)) :
    nextVersion rows merchantId key = (versionsOf rows merchantId key).length + 1 := by
  generalize isList : versionsOf rows merchantId key = versions at consecutive
  unfold nextVersion
  rw [isList]
  rcases List.eq_nil_or_concat versions with rfl | ⟨earlier, last, rfl⟩
  · rfl
  · have isHighest : (earlier.concat last).max? = some ((earlier.concat last).length : Int) := by
      rw [List.max?_eq_some_iff, consecutive]
      simp only [List.length_map, List.length_range, List.mem_map, List.mem_range]
      constructor
      · refine ⟨earlier.length, ?_, ?_⟩
        · simp
        · simp
      · rintro _ ⟨index, below, rfl⟩
        omega
    rw [isHighest]

theorem consecutive_append {rows : List SnapshotRow} {row : SnapshotRow}
    (consecutive : ∀ merchantId key, Consecutive (versionsOf rows merchantId key))
    (version : row.sourceVersion = nextVersion rows row.merchantId row.sourceKey)
    (merchantId : Uuid) (key : String) :
    Consecutive (versionsOf (rows ++ [row]) merchantId key) := by
  by_cases same : row.merchantId = merchantId ∧ row.sourceKey = key
  · obtain ⟨rfl, rfl⟩ := same
    have isNext := consecutive row.merchantId row.sourceKey
    have appended : versionsOf (rows ++ [row]) row.merchantId row.sourceKey =
        versionsOf rows row.merchantId row.sourceKey ++ [row.sourceVersion] := by
      simp [versionsOf]
    rw [appended, version, nextVersion_of_consecutive isNext]
    unfold Consecutive at isNext ⊢
    rw [List.length_append, List.length_singleton, List.range_succ, List.map_append, ← isNext]
    rfl
  · have unchanged : versionsOf (rows ++ [row]) merchantId key = versionsOf rows merchantId key := by
      rw [not_and_or] at same
      have other : (decide (row.merchantId = merchantId) && decide (row.sourceKey = key)) = false := by
        rw [Bool.and_eq_false_iff, decide_eq_false_iff_not, decide_eq_false_iff_not]
        exact same
      simp [versionsOf, List.filter_append, other]
    rw [unchanged]
    exact consecutive merchantId key

/-! ## Every run -/

/-- The history of the sources that a store holds. -/
structure History (store : IntakeStore) : Prop where
  distinct : ∀ merchantId key, (versionsOf store.snapshots.rows merchantId key).Nodup
  positive : ∀ merchantId key, ∀ version ∈ versionsOf store.snapshots.rows merchantId key,
    1 ≤ version
  console : ∀ before row after, store.snapshots.rows = before ++ row :: after →
    CreatedBy store.submissions row → Continues before row
  keys : ∀ first ∈ store.submissions, ∀ second ∈ store.submissions,
    first.merchantId = second.merchantId → first.requestKey = second.requestKey → first = second
  current : ∀ merchantId, store.current merchantId =
    (rowsOf store.snapshots.rows merchantId).getLast?

theorem history_of_good {store : IntakeStore} (good : IntakeGood store) : History store where
  distinct merchantId key := by
    refine List.pairwise_map.mpr ((good.versions.sublist List.filter_sublist).imp_of_mem ?_)
    intro first second firstMem secondMem differs
    simp only [List.mem_filter, Bool.and_eq_true, decide_eq_true_eq] at firstMem secondMem
    exact differs (firstMem.2.1.trans secondMem.2.1.symm) (firstMem.2.2.trans secondMem.2.2.symm)
  positive merchantId key version member := by
    obtain ⟨row, rowMem, _, _, rfl⟩ := mem_versionsOf.mp member
    exact good.positive row rowMem
  console := good.console
  keys := good.keys
  current := currentOf_eq_getLast? good.ordered

section Runs

variable [FieldOrder] [ContentDigest] {world : IntakeWorld}
  {events : List (Event IntakeCall IntakeInput Empty)}

/-- Every publication names the version that follows the highest one of its key. -/
def PublicationContinues (world : IntakeWorld) (event : Event IntakeCall IntakeInput Empty) :
    Prop :=
  ∀ client input definition merchantId writeOrder, event = .act client input →
    world.clients client = some (.commitPublication definition merchantId writeOrder) →
      definition.fields.version =
        nextVersion world.shared.snapshots.rows merchantId definition.fields.key

/-- A step appends at most one snapshot, with the version that follows where the step is not
one of a publication that leaves versions out. -/
theorem consecutive_step (obeys : System.Obeys intakeDiscipline world)
    {event : Event IntakeCall IntakeInput Empty} (continues : PublicationContinues world event)
    (consecutive : ∀ merchantId key,
      Consecutive (versionsOf world.shared.snapshots.rows merchantId key)) :
    ∀ merchantId key, Consecutive
      (versionsOf (intakeSystem.step event world).shared.snapshots.rows merchantId key) := by
  cases event with
  | arrive client call =>
      unfold System.step
      dsimp only
      split <;> exact consecutive
  | crash => exact consecutive
  | outside event => exact nomatch event
  | act client input =>
      unfold System.step
      dsimp only
      split
      · exact consecutive
      · next stage busy =>
          have relies := obeys.relies client stage busy
          cases stage with
          | insertSnapshot work definition | insertPublication definition =>
              change ∀ merchantId key, Consecutive
                (versionsOf (insertRow world.shared definition _ _ _).1.snapshots.rows merchantId key)
              unfold insertRow
              split <;> exact consecutive
          | recordCreated work definition writeOrder =>
              have writable : Writable world.shared work definition.fields := relies.1
              change ∀ merchantId key, Consecutive (versionsOf
                (recordCreated world.shared input work definition writeOrder).1.snapshots.rows
                merchantId key)
              unfold recordCreated
              dsimp only
              split
              · exact consecutive
              · next snapshots inserted =>
                  rw [recordSubmission_eq writable.submittable.unsettled
                    fun _ => unnamed_of_inserted obeys.shared inserted]
                  split
                  · exact consecutive
                  · change ∀ merchantId key, Consecutive (versionsOf snapshots.rows merchantId key)
                    rw [(Table.insert?_eq_some_iff.mp inserted).2]
                    exact consecutive_append consecutive writable.version
          | recordUnchanged work current =>
              have submittable : Submittable world.shared work := relies.1
              change ∀ merchantId key, Consecutive (versionsOf
                (recordSubmission world.shared input work world.shared.snapshots current false
                  (.recordUnchanged work current)).1.snapshots.rows merchantId key)
              rw [recordSubmission_eq submittable.unsettled fun isTrue => by cases isTrue]
              split <;> exact consecutive
          | commitPublication definition merchant writeOrder =>
              change ∀ merchantId key, Consecutive (versionsOf
                (commitPublication world.shared input definition merchant
                  writeOrder).1.snapshots.rows merchantId key)
              unfold commitPublication
              dsimp only
              split
              · exact consecutive
              · next snapshots inserted =>
                  change ∀ merchantId key, Consecutive (versionsOf snapshots.rows merchantId key)
                  rw [(Table.insert?_eq_some_iff.mp inserted).2]
                  exact consecutive_append consecutive
                    (continues client input definition merchant writeOrder rfl busy)
          | _ => exact consecutive

theorem appends_step (obeys : System.Obeys intakeDiscipline world)
    (event : Event IntakeCall IntakeInput Empty) :
    Appends world.shared (intakeSystem.step event world).shared := by
  cases event with
  | arrive client call =>
      unfold System.step
      dsimp only
      split <;> exact .refl world.shared
  | crash => exact .refl world.shared
  | outside event => exact nomatch event
  | act client input =>
      unfold System.step
      dsimp only
      split
      · exact .refl world.shared
      · next stage busy =>
          obtain ⟨_, change, _⟩ :=
            (perform_writes obeys.shared (obeys.relies client stage busy) input).change
          exact change.appends

/-- However submissions and publications interleave: snapshots are numbered and ordered as they
were written, every submission continues them, a request key has one answer, a submission writes
over nothing but the base that it states, and versions are left out by publications only. -/
theorem source_history {merchants : Table SourceMerchant}
    {more : List (Event IntakeCall IntakeInput Empty)}
    (within : Guarded intakeSystem.step (intakeSystem.Allowed sourceLines)
      (World.opening (.opening merchants)) (events ++ more)) :
    let world := run intakeSystem.step (World.opening (.opening merchants)) events
    let later := run intakeSystem.step world more
    History world.shared ∧ Appends world.shared later.shared ∧
      (∀ client stage work, world.clients client = some stage → stage.work? = some work →
        ∀ input, SubmissionStep world.shared work stage (stage.perform input world.shared).1
          (stage.perform input world.shared).2) ∧
        (Guarded intakeSystem.step PublicationContinues (World.opening (.opening merchants)) events →
          ∀ merchantId key, Consecutive (versionsOf world.shared.snapshots.rows merchantId key)) := by
  intro world later
  obtain ⟨before, after⟩ := (guarded_append_iff events more).mp within
  have opens : System.Obeys intakeDiscipline (World.opening (.opening merchants)) :=
    System.obeys_opening (intakeGood_opening merchants)
  have obeys : System.Obeys intakeDiscipline world := opens.run intakeSystem_keeps before
  refine ⟨history_of_good obeys.shared, ?_, ?_, ?_⟩
  · exact @run_relation _ _ intakeSystem.step (intakeSystem.Allowed sourceLines) world
      (System.Obeys intakeDiscipline) (fun first second => Appends first.shared second.shared) more
      (fun world => .refl world.shared) (fun earlier later => earlier.trans later)
      (fun _ _ obeys allowed => obeys.step intakeSystem_keeps allowed)
      (fun _ event obeys _ => appends_step obeys event) obeys after
  · exact fun client stage work busy isWork input =>
      submissionStep obeys.shared (obeys.relies client stage busy) isWork input
  · intro continues
    have invariant := @run_invariant _ _ intakeSystem.step
      (fun world event => intakeSystem.Allowed sourceLines world event ∧
        PublicationContinues world event) (World.opening (.opening merchants))
      (fun world => System.Obeys intakeDiscipline world ∧ ∀ merchantId key,
        Consecutive (versionsOf world.shared.snapshots.rows merchantId key)) events
      (fun world event kept allowed => ⟨kept.1.step intakeSystem_keeps allowed.1,
        consecutive_step kept.1 allowed.2 kept.2⟩)
      ⟨opens, fun _ _ => rfl⟩ (before.and continues)
    exact invariant.2

end Runs

/-! ## A publication that leaves a version out -/

section Sample

local instance sampleDigest : ContentDigest where
  digest _ :=
    { text := "sha256:06fcdf6d48a255e2041debc98526ea150167131a041a2624fa12c5d00d971b5e"
      isLabelled := by decide +kernel
      length := by decide +kernel }

local instance sampleOrder : FieldOrder where
  reorder := id
  perm := perm_id

def sampleMerchants : Table SourceMerchant where
  rows := [{ id := 1, slug := "shop" }]
  keysNodup := by decide

def sampleVariant : Made SourceVariant where
  fields :=
    { sku := "MUG"
      label := none
      priceAmountMinor := 100
      currency := "INR"
      availability := .inStock
      inventoryQuantity := some 1
      merchantMetadata := .empty }
  sound := by decide +kernel

def sampleProduct : Made SourceProduct where
  fields :=
    { externalId := "mug"
      title := "Mug"
      description := none
      category := none
      variants := [sampleVariant]
      merchantMetadata := .empty }
  sound := by decide +kernel

/-- The second version of a catalog whose first version nobody has published. -/
def secondVersion : Made MerchantSourceDefinition where
  fields :=
    { key := "catalog"
      version := 2
      merchantSlug := "shop"
      products := [sampleProduct]
      policyText := .empty }
  sound := by decide +kernel

def sampleInput : IntakeInput where
  snapshotId := 10
  submissionId := 20

/-- The second version is published. -/
def publishSecond : List (Event IntakeCall IntakeInput Empty) :=
  .arrive 0 (.publish secondVersion) :: List.replicate 5 (.act 0 sampleInput)

/-- The versions of a key need not be counted from one. -/
theorem publishSecond_leaves_out :
    Guarded intakeSystem.step (intakeSystem.Allowed sourceLines)
        (World.opening (.opening sampleMerchants)) publishSecond ∧
      versionsOf (run intakeSystem.step (World.opening (.opening sampleMerchants))
        publishSecond).shared.snapshots.rows 1 "catalog" = [2] ∧ ¬ Consecutive [2] := by
  refine ⟨?_, by decide +kernel, by decide +kernel⟩
  refine @System.guarded_of_alone _ _ _ _ _ intakeSystem sourceLines 0 _ _ (fun _ _ => rfl) ?_
  intro event member
  simp only [publishSecond, List.mem_cons, List.mem_replicate] at member
  rcases member with rfl | ⟨_, rfl⟩ <;> rfl

def sampleDocument : SourceDocumentInput where
  products :=
    [{ externalId := "mug"
       title := "Mug"
       description := none
       category := none
       variants :=
         [{ sku := "MUG"
            label := none
            priceAmountMinor := 100
            currency := "INR"
            availability := none
            inventoryQuantity := some 1
            merchantMetadata := .empty }]
       merchantMetadata := .empty }]
  policyText := .empty

/-- The catalog is submitted over the second version. -/
def submitOver : List (Event IntakeCall IntakeInput Empty) :=
  .arrive 0 (.submit
    { merchantId := 1
      requestKey := "first-form"
      document := sampleDocument
      baseSourceSnapshotId := some 10 }) :: List.replicate 7 (.act 0 sampleInput)

theorem source_history_sample :
    let world := run intakeSystem.step (World.opening (.opening sampleMerchants)) publishSecond
    let later := run intakeSystem.step world submitOver
    History world.shared ∧ Appends world.shared later.shared ∧
      (∀ client stage work, world.clients client = some stage → stage.work? = some work →
        ∀ input, SubmissionStep world.shared work stage (stage.perform input world.shared).1
          (stage.perform input world.shared).2) ∧
        (Guarded intakeSystem.step PublicationContinues (World.opening (.opening sampleMerchants))
            publishSecond →
          ∀ merchantId key, Consecutive (versionsOf world.shared.snapshots.rows merchantId key)) := by
  refine @source_history _ _ publishSecond sampleMerchants submitOver ?_
  refine @System.guarded_of_alone _ _ _ _ _ intakeSystem sourceLines 0 _ _ (fun _ _ => rfl) ?_
  intro event member
  simp only [publishSecond, submitOver, List.cons_append, List.mem_cons, List.mem_append,
    List.mem_replicate] at member
  rcases member with rfl | ⟨_, rfl⟩ | rfl | ⟨_, rfl⟩ <;> rfl

end Sample

end AgentRank.Representation
