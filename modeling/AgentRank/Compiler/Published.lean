import AgentRank.Compiler.Publishing

/-!
# What is published

However any number of clients review and publish: what is published of a run is faithful to the
reviews of its candidates, a run is published once, its reviews are closed by then, and nothing
keeps a run from being published whose required reviews are all present.
-/

namespace AgentRank.Compiler

open Constraints Relational Representation Store Text Transition

/-- The publication that a stage is of. -/
def CompilerStage.publishes : CompilerStage → Option PublishCall
  | claimPublication call | lockRun call => some call
  | readSource run | readCandidates run _ _ | readReviews run _ _ _
  | writeRepresentation run _ _ | recover run _ =>
      some { merchantId := run.merchantId, runId := run.id }
  | _ => none

/-- What a later store still holds: the candidates of every run, and the reviews of those that
were published. -/
structure Stays (store later : CompilerStore) : Prop where
  grows : Grows store later
  candidates : ∀ run ∈ store.runs, later.candidatesOf run = store.candidatesOf run
  published : ∀ run ∈ store.runs, run.publishedRepresentationId ≠ none →
    run ∈ later.runs ∧ ∀ review ∈ later.reviews, review.runId = run.id → review ∈ store.reviews

theorem Stays.refl (store : CompilerStore) : Stays store store where
  grows := .refl store
  candidates _ _ := rfl
  published _ member _ := ⟨member, fun _ reviewMem _ => reviewMem⟩

theorem SameRun.candidatesOf {run next : CompilerRun} (same : SameRun run next)
    (store : CompilerStore) : store.candidatesOf next = store.candidatesOf run := by
  rw [CompilerStore.candidatesOf, CompilerStore.candidatesOf, same.id, same.merchant]

theorem SameRun.trans {first second third : CompilerRun} (earlier : SameRun first second)
    (later : SameRun second third) : SameRun first third where
  id := later.id.trans earlier.id
  merchant := later.merchant.trans earlier.merchant
  source := later.source.trans earlier.source
  digest := later.digest.trans earlier.digest
  status := later.status.trans earlier.status
  published id isPublished := later.published id (earlier.published id isPublished)

theorem Grows.trans {first second third : CompilerStore} (earlier : Grows first second)
    (later : Grows second third) : Grows first third where
  sources _ member := later.sources _ (earlier.sources _ member)
  runs run member := by
    obtain ⟨next, nextMem, same⟩ := earlier.runs run member
    obtain ⟨last, lastMem, isLast⟩ := later.runs next nextMem
    exact ⟨last, lastMem, same.trans isLast⟩
  candidates _ member := later.candidates _ (earlier.candidates _ member)
  reviews _ member := later.reviews _ (earlier.reviews _ member)
  representations _ member := later.representations _ (earlier.representations _ member)

theorem Stays.trans {first second third : CompilerStore} (earlier : Stays first second)
    (later : Stays second third) : Stays first third where
  grows := earlier.grows.trans later.grows
  candidates run member := by
    obtain ⟨next, nextMem, same⟩ := earlier.grows.runs run member
    rw [← same.candidatesOf, later.candidates next nextMem, same.candidatesOf,
      earlier.candidates run member]
  published run member isPublished := by
    obtain ⟨kept, reviews⟩ := earlier.published run member isPublished
    obtain ⟨stillKept, laterReviews⟩ := later.published run kept isPublished
    exact ⟨stillKept, fun review reviewMem isRun =>
      reviews review (laterReviews review reviewMem isRun) isRun⟩

variable {store : CompilerStore}

/-- The required reviews that are present stay present. -/
theorem Stays.unresolved {later : CompilerStore} (stays : Stays store later)
    {run next : CompilerRun} (member : run ∈ store.runs) (same : SameRun run next)
    (present : store.unresolved run = []) : later.unresolved next = [] := by
  rw [unresolved_eq_nil_iff] at present ⊢
  rw [same.candidatesOf, same.id, stays.candidates run member]
  intro candidate candidateMem required
  obtain ⟨review, found⟩ := Option.isSome_iff_exists.mp (present candidate candidateMem required)
  obtain ⟨reviewMem, isRun, isCandidate⟩ := reviewOf_eq_some found
  rw [CompilerStore.reviewOf, List.find?_isSome]
  exact ⟨review, stays.grows.reviews review reviewMem, by simp [isRun, isCandidate]⟩

section Published

variable [CharacterTables] [ContentDigest] [FieldOrder]

abbrev CompilerWorld := World CompilerStore CompilerStage

/-- The candidates of a run never change. -/
theorem Changes.candidatesOf {result : CompilerStore} {touched : Option Uuid}
    (changes : Changes store touched result) {run : CompilerRun} (member : run ∈ store.runs) :
    result.candidatesOf run = store.candidatesOf run := by
  by_cases isTouched : touched = some run.id
  · cases changes with
    | reviewed | published => rfl
    | _ => cases isTouched
  · exact (changes.spares member isTouched).candidates

/-- A change leaves what a later store still holds. -/
theorem Changes.stays {result : CompilerStore} {touched : Option Uuid} (good : CompilerGood store)
    (changes : Changes store touched result) : Stays store result where
  grows := changes.grows
  candidates _ member := changes.candidatesOf member
  published run member isPublished := by
    have spares := changes.spares_published member isPublished
    refine ⟨spares.member, fun review reviewMem isRun => ?_⟩
    have found : (result.reviewOf run.id review.candidateId).isSome = true := by
      rw [CompilerStore.reviewOf, List.find?_isSome]
      exact ⟨review, reviewMem, by simp [isRun]⟩
    obtain ⟨other, isOther⟩ := Option.isSome_iff_exists.mp found
    obtain ⟨otherMem, _, sameCandidate⟩ := reviewOf_eq_some isOther
    obtain rfl := (good.changes changes).single other otherMem review reviewMem sameCandidate
    rw [spares.reviews] at isOther
    exact (reviewOf_eq_some isOther).1

section Runs

variable {world : CompilerWorld} {events : List (Event CompilerCall CompilerInput CompilerEvent)}

theorem stays_step (obeys : System.Obeys compilerDiscipline world)
    {event : Event CompilerCall CompilerInput CompilerEvent}
    (allowed : compilerSystem.Allowed compilerRegime world event) :
    Stays world.shared (compilerSystem.step event world).shared := by
  cases event with
  | arrive client call =>
      unfold System.step
      dsimp only
      split <;> exact .refl world.shared
  | act client input =>
      unfold System.step
      dsimp only
      split
      · exact .refl world.shared
      · next stage busy =>
          obtain ⟨_, changes, _⟩ :=
            perform_changes obeys.shared (obeys.relies client stage busy) input
          exact changes.stays obeys.shared
  | crash => exact .refl world.shared
  | outside event => exact (happen_changes obeys.shared allowed).stays obeys.shared

theorem stays_run (obeys : System.Obeys compilerDiscipline world)
    (within : Guarded compilerSystem.step (compilerSystem.Allowed compilerRegime) world events) :
    Stays world.shared (run compilerSystem.step world events).shared :=
  @run_relation _ _ compilerSystem.step (compilerSystem.Allowed compilerRegime) world
    (System.Obeys compilerDiscipline) (fun first second => Stays first.shared second.shared) events
    (fun world => .refl world.shared) (fun earlier later => earlier.trans later)
    (fun _ _ obeys allowed => obeys.step compilerSystem_keeps allowed)
    (fun _ _ obeys allowed => stays_step obeys allowed) obeys within

end Runs

/-- A publication of a completed run raises nothing when every required review is present. -/
theorem publishes_without_raising (good : CompilerGood store) {stage : CompilerStage}
    (relies : stage.Relies store) {run : CompilerRun} (member : run ∈ store.runs)
    (completed : run.status = .completed) (present : store.unresolved run = [])
    (publishes : stage.publishes = some { merchantId := run.merchantId, runId := run.id })
    (input : CompilerInput) (failure : CompilerFailure) :
    (stage.perform input store).2 ≠ .raises failure := by
  have sameRun : ∀ other : CompilerRun, other ∈ store.runs →
      some ({ merchantId := other.merchantId, runId := other.id } : PublishCall) =
        some { merchantId := run.merchantId, runId := run.id } → other = run := by
    intro other otherMem same
    have sameId : other.id = run.id := by injection Option.some.inj same
    exact Table.eq_of_key_eq otherMem member sameId
  cases stage with
  | lockReview | readPublished | checkReview | readReview | writeReview => cases publishes
  | claimPublication call => nofun
  | lockRun call =>
      cases publishes
      change lockRun store _ ≠ _
      unfold lockRun
      rw [run?_eq_some_iff.mpr ⟨member, rfl, rfl⟩]
      dsimp only
      rw [if_neg (not_not.mpr completed)]
      split
      · nofun
      · next id isNamed =>
          obtain ⟨representation, isStored, isAt, _, merchant⟩ := good.named run member id isNamed
          have found : store.representations.get? id = some representation :=
            Table.get?_eq_some_iff.mpr ⟨isStored, isAt⟩
          rw [found, Option.filter_some, if_pos (decide_eq_true merchant)]
          nofun
  | readSource other =>
      obtain ⟨snapshot, source, _, isNext⟩ := readSource_eq good relies
      change readSource store other ≠ _
      rw [isNext]
      nofun
  | readCandidates => nofun
  | readReviews other snapshot source candidates =>
      obtain ⟨publishing, sourceOf, rfl⟩ := relies
      obtain rfl := sameRun other publishing.member publishes
      change readReviews store other snapshot source _ ≠ _
      rcases readReviews_eq good publishing sourceOf with ⟨waiting, _⟩ | ⟨definition, _, isNext⟩
      · exact absurd present waiting
      · rw [isNext]
        nofun
  | writeRepresentation other snapshot definition =>
      obtain ⟨publishing, source, assembles⟩ := relies
      change (writeRepresentation store input other snapshot definition).2 ≠ _
      rw [writeRepresentation_eq good publishing assembles]
      split <;> nofun
  | recover => exact absurd relies id

/-- Every representation that names a run is faithful to the reviews of the run. -/
def PublishedFaithfully (store : CompilerStore) : Prop :=
  ∀ representation ∈ store.representations, ∀ runId, representation.compilerRunId = some runId →
    ∃ run ∈ store.runs, run.id = runId ∧ run.status = .completed ∧
      run.publishedRepresentationId = some representation.id ∧
        ∃ snapshot source, SourceOf store.sources run snapshot source ∧
          Faithful source.fields (store.candidatesOf run) (store.reviewOf run.id)
            representation.definition.fields

/-- A run has at most one representation. -/
def PublishedOnce (store : CompilerStore) : Prop :=
  ∀ first ∈ store.representations, ∀ second ∈ store.representations, ∀ runId,
    first.compilerRunId = some runId → second.compilerRunId = some runId → first = second

/-- No review of a run that was published is recorded later on. -/
def ReviewsClosed (store later : CompilerStore) : Prop :=
  ∀ run ∈ store.runs, run.publishedRepresentationId ≠ none →
    ∀ review ∈ later.reviews, review.runId = run.id → review ∈ store.reviews

/-- Once every required review of a completed run is present, no step of a publication of the
run raises. -/
def PublishesFreely (store : CompilerStore) (later : CompilerWorld) : Prop :=
  ∀ run ∈ store.runs, run.status = .completed → store.unresolved run = [] →
    ∀ client stage, later.clients client = some stage →
      stage.publishes = some { merchantId := run.merchantId, runId := run.id } →
        ∀ input failure, (stage.perform input later.shared).2 ≠ .raises failure

theorem publishedFaithfully_of_good (good : CompilerGood store) :
    PublishedFaithfully store := by
  intro representation member runId isRun
  obtain ⟨run, runMem, runAt, published⟩ := good.published representation member runId isRun
  obtain ⟨snapshot, source, assembles⟩ := published.assembles
  obtain ⟨standFor, resolved⟩ :=
    good.resolved runMem published.completed assembles.resolved assembles.sourceOf
  exact ⟨run, runMem, runAt, published.completed, published.named, snapshot, source,
    assembles.sourceOf, faithful_of_representationOf (sourceSound_iff.mp source.sound)
      assembles.sourceOf.accepted.plain standFor resolved assembles.isOk⟩

theorem publishesFreely_of_stays {later : CompilerWorld}
    (obeys : System.Obeys compilerDiscipline later) (stays : Stays store later.shared) :
    PublishesFreely store later := by
  intro run member completed present client stage busy publishes
  obtain ⟨next, nextMem, same⟩ := stays.grows.runs run member
  refine publishes_without_raising obeys.shared (obeys.relies client stage busy) nextMem
    (same.status.trans completed) (stays.unresolved member same present) ?_
  rw [publishes, same.id, same.merchant]

/-- However reviews and publications interleave: what is published of a run over an accepted
document is faithful to the reviews, once for each run, with no review recorded after it; and
when the required reviews are present, a publication raises nothing. -/
theorem publications_are_faithful
    {events more : List (Event CompilerCall CompilerInput CompilerEvent)}
    (within : Guarded compilerSystem.step (compilerSystem.Allowed compilerRegime)
      (World.opening .empty) (events ++ more)) :
    let world := run compilerSystem.step (World.opening .empty) events
    let later := run compilerSystem.step world more
    PublishedFaithfully world.shared ∧ PublishedOnce world.shared ∧
      ReviewsClosed world.shared later.shared ∧ PublishesFreely world.shared later := by
  intro world later
  obtain ⟨before, after⟩ := (guarded_append_iff events more).mp within
  have obeys : System.Obeys compilerDiscipline world :=
    (System.obeys_opening compilerGood_empty).run compilerSystem_keeps before
  have obeysLater : System.Obeys compilerDiscipline later := obeys.run compilerSystem_keeps after
  have stays := stays_run obeys after
  refine ⟨publishedFaithfully_of_good obeys.shared, ?_, ?_, publishesFreely_of_stays obeysLater stays⟩
  · intro first firstMem second secondMem runId
    exact obeys.shared.eq_of_compilerRunId firstMem secondMem
  · exact fun run member isPublished => (stays.published run member isPublished).2

end Published

/-! ## A connector that is reviewed and published -/

section Plug

local instance plugTables : CharacterTables := asciiTables

local instance plugDigest : ContentDigest where
  digest _ :=
    { text := "sha256:06fcdf6d48a255e2041debc98526ea150167131a041a2624fa12c5d00d971b5c"
      isLabelled := by decide +kernel
      length := by decide +kernel }

local instance plugOrder : FieldOrder where
  reorder := id
  perm := perm_id

def plugVariant : SourceVariantInput where
  sku := "PLUG"
  label := none
  priceAmountMinor := 100
  currency := "INR"
  availability := none
  inventoryQuantity := some 1
  merchantMetadata := .empty

def plugProduct : SourceProductInput where
  externalId := "plug"
  title := "USB-PD"
  description := none
  category := none
  variants := [plugVariant]
  merchantMetadata := .empty

def plugDocument : SourceDocumentInput where
  products := [plugProduct]
  policyText := .empty

def plugVariantMade : Made SourceVariant where
  fields :=
    { sku := "PLUG"
      label := none
      priceAmountMinor := 100
      currency := "INR"
      availability := .inStock
      inventoryQuantity := some 1
      merchantMetadata := .empty }
  sound := by decide +kernel

def plugProductMade : Made SourceProduct where
  fields :=
    { externalId := "plug"
      title := "USB-PD"
      description := none
      category := none
      variants := [plugVariantMade]
      merchantMetadata := .empty }
  sound := by decide +kernel

def plugSource : Made MerchantSourceDefinition where
  fields :=
    { key := "catalog"
      version := 1
      merchantSlug := "shop"
      products := [plugProductMade]
      policyText := .empty }
  sound := by decide +kernel

theorem plugSource_accepted : AcceptedSource plugSource := by
  have variant : plugVariant.domain = .ok plugVariantMade :=
    except_bind_eq_ok_iff.mpr ⟨.inStock, rfl, make_made plugVariantMade⟩
  have product : plugProduct.domain = .ok plugProductMade :=
    except_bind_eq_ok_iff.mpr
      ⟨_, mapM_eq_ok_iff.mpr (.cons variant .nil), make_made plugProductMade⟩
  have valid : plugDocument.isValid = true := by decide +kernel
  exact ⟨plugDocument, valid, "catalog", 1, "shop",
    except_bind_eq_ok_iff.mpr ⟨_, mapM_eq_ok_iff.mpr (.cons product .nil), make_made plugSource⟩⟩

def plugSnapshot : MerchantSourceSnapshot where
  id := 1
  merchantId := 2
  sourceKey := "catalog"
  sourceVersion := 1
  contentHash := plugSource.fields.contentHash
  payload := plugSource.fields.payload.stored

/-- The document is stored and compiled, its connector is accepted, and the run is published. -/
def plugPublished : List (Event CompilerCall CompilerInput CompilerEvent) :=
  .outside (.stored plugSnapshot) ::
    .outside (.compiled 3 2 1 plugSource.fields.contentHash [10, 11, 12, 13]) ::
      .arrive 0 (.review { merchantId := 2, candidateId := 13, decision := .accept }) ::
        List.replicate 5 (.act 0 { newId := 20 }) ++
          .arrive 0 (.publish { merchantId := 2, runId := 3 }) ::
            List.replicate 6 (.act 0 { newId := 30 })

/-- The connector is reviewed once more, and the run is published once more. -/
def plugRepeated : List (Event CompilerCall CompilerInput CompilerEvent) :=
  .arrive 0 (.review { merchantId := 2, candidateId := 13, decision := .reject }) ::
    List.replicate 2 (.act 0 { newId := 40 }) ++
      [.arrive 0 (.publish { merchantId := 2, runId := 3 }), .act 0 { newId := 50 }]

theorem plug_within :
    Guarded compilerSystem.step (compilerSystem.Allowed compilerRegime) (World.opening .empty)
      (plugPublished ++ plugRepeated) := by
  refine @System.guarded_of_alone_beside _ _ _ _ _ compilerSystem compilerRegime 0 _ _
    (fun _ _ => rfl) ?_
  intro event member
  simp only [plugPublished, plugRepeated, List.cons_append, List.mem_cons, List.mem_append,
    List.mem_replicate, List.not_mem_nil, or_false] at member
  rcases member with rfl | rfl | rfl | (⟨_, rfl⟩ | rfl | ⟨_, rfl⟩) | rfl | ⟨_, rfl⟩ | rfl | rfl
  · exact Or.inr ⟨_, rfl, plugSource, plugSource_accepted, rfl, rfl, rfl, rfl⟩
  · exact Or.inr ⟨_, rfl, trivial⟩
  all_goals exact Or.inl rfl

theorem publications_are_faithful_plug :
    let world := run compilerSystem.step (World.opening .empty) plugPublished
    let later := run compilerSystem.step world plugRepeated
    PublishedFaithfully world.shared ∧ PublishedOnce world.shared ∧
      ReviewsClosed world.shared later.shared ∧ PublishesFreely world.shared later :=
  publications_are_faithful plug_within

end Plug

end AgentRank.Compiler
