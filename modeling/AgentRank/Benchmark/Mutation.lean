import AgentRank.Checkout.Service
import AgentRank.Mandates.Service
import AgentRank.Payments.Admission
import AgentRank.Transition.Clients

/-!
# Mutations of a merchant beside the start of a run

This module models `benchmark/mutation.py` against `BenchmarkRunService.start_run`.  The
guard of a mutation reads the run that is active, and holds nothing.  The start of a run
reads that no run is active and commits a running one.

Between the guard and a commit of the mutation any number of other steps may fall.  The
guard holds in every state of a run of the system exactly when no benchmark run of a
merchant starts while an ordinary mutation of that merchant is past its guard.
-/

namespace AgentRank.Benchmark

open Relational Store Transition

/-- A mutation, and the transactions it commits after its guard. -/
structure Mutation where
  merchantId : Uuid
  capability : Option BenchmarkRunCapability
  work : List (Session PUnit)

/-- Which step a party takes next. -/
inductive MutationStage
  | guarding (mutation : Mutation)
  /-- The guard has passed, on the runs that were `seen`. -/
  | working (mutation : Mutation) (seen : Table BenchmarkRun) (rest : List (Session PUnit))
  | claiming (merchantId runId : Uuid)
  | starting (merchantId runId : Uuid)

inductive MutationCall
  | mutate (mutation : Mutation)
  | start (merchantId runId : Uuid)

/-- A run is closed by its operator or by its runner. -/
inductive RunClosure
  | complete (runId : Uuid)
  | abort (runId : Uuid)

/-- A transaction whose guard read the runs earlier. -/
def afterReading (seen : Table BenchmarkRun) (transaction : Session PUnit) : Session PUnit :=
  fun database =>
    match transaction { database with benchmarkRuns := seen } with
    | .error failure => .error failure
    | .ok (_, final) => .ok (PUnit.unit, { final with benchmarkRuns := database.benchmarkRuns })

/-- Commit a running run.  A partial unique index allows one for each merchant. -/
def createRunning (merchantId runId : Uuid) (database : Database) : Option Database :=
  if (activeRunId database merchantId).isSome then none
  else
    (database.benchmarkRuns.insert?
      { id := runId, merchantId := merchantId, status := .running }).map fun runs =>
        { database with benchmarkRuns := runs }

/-- A running run takes a terminal status. -/
def closeRun (runId : Uuid) (status : BenchmarkRunStatus) (database : Database) : Database :=
  match database.benchmarkRuns.get? runId with
  | none => database
  | some run =>
      if run.status = .running then
        { database with benchmarkRuns := database.benchmarkRuns.set { run with status := status } }
      else database

/-- Past its guard a mutation works while it has transactions left. -/
def working (mutation : Mutation) (seen : Table BenchmarkRun) :
    List (Session PUnit) → Option MutationStage
  | [] => none
  | next :: rest => some (.working mutation seen (next :: rest))

/-- What a stage does, and where it leads.  A failure ends the call. -/
def MutationStage.act (stage : MutationStage) (database : Database) :
    Database × Option MutationStage :=
  match stage with
  | .guarding mutation =>
      match mutationRefusal mutation.merchantId mutation.capability database with
      | some _ => (database, none)
      | none => (database, Benchmark.working mutation database.benchmarkRuns mutation.work)
  | .working mutation seen rest =>
      match rest with
      | [] => (database, none)
      | next :: rest =>
          match afterReading seen next database with
          | .error _ => (database, none)
          | .ok (_, final) => (final, Benchmark.working mutation seen rest)
  | .claiming merchantId runId =>
      match activeRunId database merchantId with
      | some _ => (database, none)
      | none => (database, some (.starting merchantId runId))
  | .starting merchantId runId =>
      match createRunning merchantId runId database with
      | none => (database, none)
      | some final => (final, none)

def MutationCall.enter : MutationCall → MutationStage
  | .mutate mutation => .guarding mutation
  | .start merchantId runId => .claiming merchantId runId

/-- Mutations and starts of one store.  Nothing keeps any two of them apart: the advisory
lock that two starts share is taken by no mutation. -/
def mutationSystem : System Database MutationCall MutationStage PUnit RunClosure where
  enter := MutationCall.enter
  act _ stage database := stage.act database
  outside closure database :=
    match closure with
    | .complete runId => closeRun runId .completed database
    | .abort runId => closeRun runId .aborted database

abbrev MutationWorld := World Database MutationStage

abbrev MutationEvent := Event MutationCall PUnit RunClosure

/-- An ordinary mutation of a merchant is past its guard. -/
def PastGuard (world : MutationWorld) (client : Nat) (merchantId : Uuid) : Prop :=
  ∃ mutation seen rest, world.clients client = some (.working mutation seen rest) ∧
    mutation.capability = none ∧ mutation.merchantId = merchantId

/-- The guard of every ordinary mutation still holds. -/
def GuardHolds (world : MutationWorld) : Prop :=
  ∀ client merchantId, PastGuard world client merchantId →
    activeRunId world.shared merchantId = none

/-- The step commits a running run of a merchant. -/
def Starts (world : MutationWorld) (event : MutationEvent) (merchantId : Uuid) : Prop :=
  ∃ client runId, event = .act client PUnit.unit ∧
    world.clients client = some (.starting merchantId runId) ∧
    (createRunning merchantId runId world.shared).isSome = true

/-- The step commits a transaction of an ordinary mutation of a merchant. -/
def Commits (world : MutationWorld) (event : MutationEvent) (merchantId : Uuid) : Prop :=
  ∃ client mutation seen next rest final, event = .act client PUnit.unit ∧
    world.clients client = some (.working mutation seen (next :: rest)) ∧
    mutation.capability = none ∧ mutation.merchantId = merchantId ∧
    afterReading seen next world.shared = .ok (PUnit.unit, final)

/-- The step starts no run of a merchant whose ordinary mutations are past their guard. -/
def Undisturbed (world : MutationWorld) (event : MutationEvent) : Prop :=
  ∀ merchantId, Starts world event merchantId → ∀ client, ¬PastGuard world client merchantId

variable {database : Database} {merchantId : Uuid}

/-- No run of a merchant is active exactly when none of its runs is running. -/
theorem activeRunId_eq_none_iff :
    activeRunId database merchantId = none ↔
      ∀ run ∈ database.benchmarkRuns, run.merchantId = merchantId → run.status ≠ .running := by
  simp [activeRunId, Table.mem_def]

/-- Which run is active depends on the runs alone. -/
theorem activeRunId_congr {first second : Database} (merchantId : Uuid)
    (same : first.benchmarkRuns = second.benchmarkRuns) :
    activeRunId first merchantId = activeRunId second merchantId := by
  simp only [activeRunId, same]

variable {seen : Table BenchmarkRun} {final : Database}

/-- A mutation commits without writing a run. -/
theorem afterReading_eq_ok {transaction : Session PUnit} {result : PUnit}
    (committed : afterReading seen transaction database = .ok (result, final)) :
    final.benchmarkRuns = database.benchmarkRuns := by
  unfold afterReading at committed
  split at committed
  · cases committed
  · cases committed
    rfl

/-- Where the guard and the commit fall together, the transaction is the one of the source. -/
theorem afterReading_self {transaction : Session PUnit}
    (committed : transaction database = .ok (PUnit.unit, final))
    (keepsRuns : final.benchmarkRuns = database.benchmarkRuns) :
    afterReading database.benchmarkRuns transaction database = .ok (PUnit.unit, final) := by
  have same : { database with benchmarkRuns := database.benchmarkRuns } = database := rfl
  unfold afterReading
  rw [same, committed, ← keepsRuns]

/-- A committed start makes its run the active one. -/
theorem activeRunId_of_createRunning {runId : Uuid}
    (created : createRunning merchantId runId database = some final) :
    activeRunId final merchantId ≠ none ∧
      ∀ other, other ≠ merchantId → activeRunId final other = activeRunId database other := by
  unfold createRunning at created
  split at created
  · cases created
  · rcases Option.map_eq_some_iff.mp created with ⟨runs, inserted, rfl⟩
    rcases Table.insert?_eq_some_iff.mp inserted with ⟨_, rowsEq⟩
    constructor
    · intro inactive
      have isNew := activeRunId_eq_none_iff.mp inactive
        { id := runId, merchantId := merchantId, status := .running }
      apply isNew
      · simp [Table.mem_def, rowsEq]
      · rfl
      · rfl
    · intro other different
      simp [activeRunId, rowsEq, List.find?_append, different.symm]

/-- Closing a run activates none. -/
theorem activeRunId_closeRun {runId : Uuid} {status : BenchmarkRunStatus}
    (terminal : status ≠ .running) (inactive : activeRunId database merchantId = none) :
    activeRunId (closeRun runId status database) merchantId = none := by
  unfold closeRun
  split
  · exact inactive
  · next run found =>
      split
      · have member := (Table.get?_eq_some_iff.mp found).1
        rw [activeRunId_eq_none_iff] at inactive ⊢
        intro other otherMem ofMerchant
        have written : other ∈ database.benchmarkRuns.set { run with status := status } := otherMem
        have sameKey : Keyed.key run = Keyed.key { run with status := status } := rfl
        rcases (Table.mem_set_iff member sameKey).mp written with rfl | ⟨earlier, _⟩
        · exact terminal
        · exact inactive other earlier ofMerchant
      · exact inactive

/-! ## What a step does to the guard -/

variable {world : MutationWorld} {event : MutationEvent}

/-- The guard of an ordinary mutation passes where no run is active. -/
theorem active_of_mutationRefusal (passed : mutationRefusal merchantId none database = none) :
    activeRunId database merchantId = none := by
  cases active : activeRunId database merchantId with
  | none => rfl
  | some runId => simp [mutationRefusal, active] at passed

variable {stage : MutationStage}

theorem working_eq_some {mutation : Mutation} {rest : List (Session PUnit)}
    (works : working mutation seen rest = some stage) :
    ∃ next later, stage = .working mutation seen (next :: later) := by
  cases rest with
  | nil => cases works
  | cons next later =>
      cases works
      exact ⟨next, later, rfl⟩

/-- Where a stage leads past the guard of an ordinary mutation, it was past it already, or
no run is active. -/
theorem act_pastGuard {mutation : Mutation} {rest : List (Session PUnit)}
    (leads : (stage.act database).2 = some (.working mutation seen rest))
    (ordinary : mutation.capability = none) :
    (∃ before, stage = .working mutation seen before) ∨
      activeRunId (stage.act database).1 mutation.merchantId = none := by
  cases stage with
  | guarding other =>
      cases refused : mutationRefusal other.merchantId other.capability database with
      | some failure => simp [MutationStage.act, refused] at leads
      | none =>
          simp only [MutationStage.act, refused] at leads ⊢
          rcases working_eq_some leads with ⟨next, later, stageEq⟩
          cases stageEq
          rw [ordinary] at refused
          exact Or.inr (active_of_mutationRefusal refused)
  | working other otherSeen before =>
      cases before with
      | nil => cases leads
      | cons next later =>
          simp only [MutationStage.act] at leads
          split at leads
          · cases leads
          · rcases working_eq_some leads with ⟨_, _, stageEq⟩
            cases stageEq
            exact Or.inl ⟨_, rfl⟩
  | claiming merchantId runId =>
      simp only [MutationStage.act] at leads
      split at leads <;> cases leads
  | starting merchantId runId =>
      simp only [MutationStage.act] at leads
      split at leads <;> cases leads

/-- A stage activates a run of a merchant only where it commits a start. -/
theorem act_active (inactive : activeRunId database merchantId = none)
    (noStart : ∀ runId, stage = .starting merchantId runId →
      createRunning merchantId runId database = none) :
    activeRunId (stage.act database).1 merchantId = none := by
  cases stage with
  | guarding mutation =>
      simp only [MutationStage.act]
      split <;> exact inactive
  | working mutation seen rest =>
      cases rest with
      | nil => exact inactive
      | cons next later =>
          simp only [MutationStage.act]
          split
          · exact inactive
          · next final committed =>
              rw [activeRunId_congr merchantId (afterReading_eq_ok committed)]
              exact inactive
  | claiming other runId =>
      simp only [MutationStage.act]
      split <;> exact inactive
  | starting other runId =>
      simp only [MutationStage.act]
      split
      · exact inactive
      · next final created =>
          have different : merchantId ≠ other := by
            rintro rfl
            rw [noStart runId rfl] at created
            cases created
          rw [(activeRunId_of_createRunning created).2 merchantId different]
          exact inactive

/-- A client past its guard after a step was past it before, or no run is active. -/
theorem pastGuard_step {client : Nat}
    (past : PastGuard (mutationSystem.step event world) client merchantId) :
    PastGuard world client merchantId ∨
      activeRunId (mutationSystem.step event world).shared merchantId = none := by
  rcases past with ⟨mutation, seen, rest, busy, ordinary, rfl⟩
  cases event with
  | arrive actor call =>
      cases isFree : world.clients actor with
      | some stage =>
          simp only [System.step, isFree] at busy
          exact Or.inl ⟨mutation, seen, rest, busy, ordinary, rfl⟩
      | none =>
          simp only [System.step, isFree] at busy
          rcases World.of_place busy with ⟨_, entered⟩ | ⟨_, wasBusy⟩
          · cases call <;> cases entered
          · exact Or.inl ⟨mutation, seen, rest, wasBusy, ordinary, rfl⟩
  | act actor input =>
      cases acting : world.clients actor with
      | none =>
          simp only [System.step, acting] at busy
          exact Or.inl ⟨mutation, seen, rest, busy, ordinary, rfl⟩
      | some stage =>
          simp only [System.step, acting] at busy ⊢
          rcases World.of_place busy with ⟨rfl, leads⟩ | ⟨_, wasBusy⟩
          · rcases act_pastGuard leads ordinary with ⟨before, stageEq⟩ | inactive
            · rw [stageEq] at acting
              exact Or.inl ⟨mutation, seen, before, acting, ordinary, rfl⟩
            · exact Or.inr inactive
          · exact Or.inl ⟨mutation, seen, rest, wasBusy, ordinary, rfl⟩
  | crash actor =>
      rcases World.of_place busy with ⟨_, gone⟩ | ⟨_, wasBusy⟩
      · cases gone
      · exact Or.inl ⟨mutation, seen, rest, wasBusy, ordinary, rfl⟩
  | outside closure => exact Or.inl ⟨mutation, seen, rest, busy, ordinary, rfl⟩

/-- A step activates a run of a merchant only where it starts one. -/
theorem active_step (inactive : activeRunId world.shared merchantId = none)
    (noStart : ¬Starts world event merchantId) :
    activeRunId (mutationSystem.step event world).shared merchantId = none := by
  cases event with
  | arrive actor call =>
      cases isFree : world.clients actor <;> simpa only [System.step, isFree] using inactive
  | act actor input =>
      cases acting : world.clients actor with
      | none => simpa only [System.step, acting] using inactive
      | some stage =>
          simp only [System.step, acting]
          apply act_active inactive
          rintro runId rfl
          by_contra created
          exact noStart ⟨actor, runId, rfl, acting, Option.isSome_iff_ne_none.mpr created⟩
  | crash actor => exact inactive
  | outside closure =>
      cases closure with
      | complete runId => exact activeRunId_closeRun (by decide) inactive
      | abort runId => exact activeRunId_closeRun (by decide) inactive

/-- The guards hold after an undisturbed step. -/
theorem guardHolds_step (holds : GuardHolds world) (undisturbed : Undisturbed world event) :
    GuardHolds (mutationSystem.step event world) := by
  intro client merchantId past
  rcases pastGuard_step past with before | inactive
  · apply active_step (holds client merchantId before)
    intro starts
    exact undisturbed merchantId starts client before
  · exact inactive

/-- A step after which the guards hold was undisturbed. -/
theorem undisturbed_of_guardHolds (holds : GuardHolds (mutationSystem.step event world)) :
    Undisturbed world event := by
  rintro merchantId ⟨actor, runId, rfl, acting, created⟩ client
    ⟨mutation, seen, rest, busy, ordinary, merchant⟩
  rcases Option.isSome_iff_exists.mp created with ⟨final, createdEq⟩
  have isOther : client ≠ actor := by
    rintro rfl
    rw [acting] at busy
    cases busy
  have stepEq : mutationSystem.step (.act actor PUnit.unit) world =
      { shared := final, clients := world.place actor none } := by
    simp only [System.step, acting, mutationSystem, MutationStage.act, createdEq]
  rw [stepEq] at holds
  have still : PastGuard { shared := final, clients := world.place actor none } client
      merchantId :=
    ⟨mutation, seen, rest, (if_neg isOther).trans busy, ordinary, merchant⟩
  exact (activeRunId_of_createRunning createdEq).1 (holds client merchantId still)

/-- The guards hold in every state of a run exactly when every step of it is undisturbed. -/
theorem guardHolds_run_iff {events : List MutationEvent} (holds : GuardHolds world) :
    (∀ before after, events = before ++ after →
        GuardHolds (run mutationSystem.step world before)) ↔
      Guarded mutationSystem.step Undisturbed world events := by
  induction events generalizing world with
  | nil =>
      constructor
      · intro _
        trivial
      · intro _ before after split
        rw [List.nil_eq_append_iff] at split
        rw [split.1]
        exact holds
  | cons event rest ih =>
      constructor
      · intro everywhere
        have next : GuardHolds (mutationSystem.step event world) := everywhere [event] rest rfl
        refine ⟨undisturbed_of_guardHolds next, (ih next).mp ?_⟩
        intro before after split
        exact everywhere (event :: before) after (by rw [split, List.cons_append])
      · rintro ⟨undisturbed, later⟩ before after split
        cases before with
        | nil => exact holds
        | cons first before =>
            rw [List.cons_append, List.cons.injEq] at split
            rcases split with ⟨rfl, restEq⟩
            exact (ih (guardHolds_step holds undisturbed)).mpr later before after restEq

/-- Nobody is past a guard where nobody has called. -/
theorem guardHolds_opening (database : Database) : GuardHolds (World.opening database) := by
  rintro client merchantId ⟨mutation, seen, rest, busy, _⟩
  cases busy

/-- The check of the guard remains true until the mutation commits exactly in the runs of
the system in which no benchmark run of a merchant starts while an ordinary mutation of
that merchant is past its guard.  In those runs no ordinary mutation commits while a run of
its merchant is running. -/
theorem mutation_guarded_iff (database : Database) (events : List MutationEvent) :
    ((∀ before after, events = before ++ after →
        GuardHolds (run mutationSystem.step (World.opening database) before)) ↔
      Guarded mutationSystem.step Undisturbed (World.opening database) events) ∧
    (Guarded mutationSystem.step Undisturbed (World.opening database) events →
      ∀ before event after merchantId, events = before ++ event :: after →
        Commits (run mutationSystem.step (World.opening database) before) event merchantId →
          activeRunId (run mutationSystem.step (World.opening database) before).shared
            merchantId = none ∧
          activeRunId
            (run mutationSystem.step (World.opening database) (before ++ [event])).shared
            merchantId = none) := by
  have everyState :
      (∀ before after, events = before ++ after →
        GuardHolds (run mutationSystem.step (World.opening database) before)) ↔
      Guarded mutationSystem.step Undisturbed (World.opening database) events :=
    guardHolds_run_iff (guardHolds_opening database)
  refine ⟨everyState, ?_⟩
  rintro undisturbed before event after merchantId split
    ⟨client, mutation, seen, next, rest, final, rfl, busy, ordinary, merchant, committed⟩
  have holds := everyState.mpr undisturbed before (_ :: after) split
  have inactive := holds client merchantId ⟨mutation, seen, _, busy, ordinary, merchant⟩
  refine ⟨inactive, ?_⟩
  rw [run_append, run_cons, run_nil]
  apply active_step inactive
  rintro ⟨actor, runId, actorEq, acting, _⟩
  cases actorEq
  rw [busy] at acting
  cases acting

variable {capability : Option BenchmarkRunCapability} {credentialId : Option Uuid}

/-- Cancelling a quote writes no run. -/
theorem cancelCheckout_keepsRuns {checkoutId : Uuid} {transactionTime : Instant} {result : PUnit}
    (committed : Checkout.cancelCheckout checkoutId merchantId capability credentialId
      transactionTime database = .ok (result, final)) :
    final.benchmarkRuns = database.benchmarkRuns := by
  rcases Checkout.cancelCheckout_eq_ok committed with ⟨_, _, _, _, _, _, _, finalEq, _⟩
  rw [finalEq]

/-- Revoking a mandate writes no run. -/
theorem revokeMandate_keepsRuns {mandateId : Uuid} {transactionTime : Instant} {result : PUnit}
    (committed : Mandates.revokeMandate mandateId merchantId capability credentialId
      transactionTime database = .ok (result, final)) :
    final.benchmarkRuns = database.benchmarkRuns := by
  rw [(Mandates.revokeMandate_eq_ok committed).1]

/-- Admitting a payment writes no run. -/
theorem admitPayment_keepsRuns [Text.CaseFolding] {checkoutId : Uuid} {idempotencyKey : String}
    {evaluatedAt admittedAt : Instant} {attemptId : Uuid} {admission : Payments.PaymentAdmission}
    (committed : Payments.admitPayment checkoutId merchantId idempotencyKey capability
      credentialId evaluatedAt admittedAt attemptId database = .ok (admission, final)) :
    final.benchmarkRuns = database.benchmarkRuns := by
  rcases Payments.admitPayment_eq_ok committed with
    ⟨_, finalEq, _⟩ | ⟨_, _, _, _, _, _, _, _, _, _, _, _, finalEq, _⟩
  · rw [finalEq]
  · rw [finalEq]

section Sample

open Checkout

/-- An ordinary withdrawal of the sample quote. -/
def withdrawal : Mutation where
  merchantId := 0
  capability := none
  work := [cancelCheckout 2 0 none none 20]

/-- The guard passes, a run starts, and the withdrawal commits. -/
def overtaken : List MutationEvent :=
  [.arrive 0 (.mutate withdrawal), .act 0 PUnit.unit, .arrive 1 (.start 0 50),
    .act 1 PUnit.unit, .act 1 PUnit.unit]

/-- A quote is cancelled by an ordinary caller while a run of its merchant is running. -/
theorem cancelled_while_running :
    let before := run mutationSystem.step (World.opening sampleDatabase) overtaken
    let final := mutationSystem.step (.act 0 PUnit.unit) before
    activeRunId before.shared 0 = some 50 ∧
      (before.shared.checkouts.get? 2).map CheckoutSession.status = some .isOpen ∧
      activeRunId final.shared 0 = some 50 ∧
      (final.shared.checkouts.get? 2).map CheckoutSession.status = some .cancelled := by
  decide +kernel

/-- Before a run starts the withdrawal commits with no run active. -/
theorem mutation_guarded_iff_sample :
    let before := run mutationSystem.step (World.opening sampleDatabase)
      [.arrive 0 (.mutate withdrawal), .act 0 PUnit.unit]
    activeRunId before.shared 0 = none := by
  have undisturbed : Guarded mutationSystem.step Undisturbed (World.opening sampleDatabase)
      [.arrive 0 (.mutate withdrawal), .act 0 PUnit.unit, .act 0 PUnit.unit] := by
    refine ⟨?_, ?_, ?_, trivial⟩
    · rintro merchantId ⟨client, runId, ⟨⟩, _⟩
    · rintro merchantId ⟨client, runId, ⟨⟩, ⟨⟩, _⟩
    · rintro merchantId ⟨client, runId, ⟨⟩, ⟨⟩, _⟩
  refine ((mutation_guarded_iff sampleDatabase _).2 undisturbed
    [.arrive 0 (.mutate withdrawal), .act 0 PUnit.unit] (.act 0 PUnit.unit) [] 0 rfl ?_).1
  exact ⟨0, withdrawal, _, _, [], _, rfl, rfl, rfl, rfl, rfl⟩

end Sample

end AgentRank.Benchmark
