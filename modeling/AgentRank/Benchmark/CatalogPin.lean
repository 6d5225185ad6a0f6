import AgentRank.Benchmark.RunClosure
import AgentRank.Benchmark.World

/-!
# The catalog pin of a run

This module models `start_suite` and `execute_started_suite` of `benchmark/runner.py` over the
catalog they prepare, pin and read.

A start is two transactions: the world is prepared, and then the run is created with the hash
of the catalog as it stands.  Each of the two holds the claim on the world, and between them
nobody does.  A pin describes the prepared world when nothing has written the catalog in
between.
-/

namespace AgentRank.Benchmark

open Commerce Relational Representation Store Transition

/-- The runs and the catalog.  `pins` is the column `catalog_hash` of the runs.  For every
mission that has begun, `measured` says what catalog was read for it.  `disturbed` says that
the catalog has been written since it was last prepared, and `overtaken` that a run has
started over such a catalog. -/
structure PinStore where
  runs : RunStore
  catalog : Catalog
  pins : List (Uuid × ContentHash) := []
  measured : List (Uuid × ContentHash) := []
  disturbed : Bool := true
  overtaken : Bool := false

/-- The catalog hash that a run was created with. -/
def PinStore.pinOf (store : PinStore) (runId : Uuid) : Option ContentHash :=
  store.pins.lookup runId

/-- What a starter asks for: a run of the missions of a suite. -/
structure SuiteCall where
  runId : Uuid
  missionKeys : List String
  distinct : missionKeys.Nodup

/-- What the surroundings of a step answer.  A payment that has not resolved refuses a
preparation, and an executor may buy while it is called. -/
structure PinInput extends RunInput where
  draws : Draws
  holdsPayment : Bool := false
  purchase : Option (Uuid → Nat) := none

inductive PinStage
  | preparing (call : SuiteCall)
  | starting (call : SuiteCall)
  | executing (run : SuiteRun) (step : SuiteStep)

/-- What other sessions do to the merchant. -/
inductive PinCommand
  /-- An ordinary command, which may write any catalog. -/
  | command (change : Catalog → Catalog)
  | abort (runId : Uuid) (now : Instant)

/-! ## What the steps do -/

section Steps

variable [CatalogDigest] (environment : BenchmarkEnvironment)

/-- The hash of the merchant's catalog as it stands. -/
def PinStore.contentHash (store : PinStore) : ContentHash :=
  catalogContentHash (catalogEntries environment.merchantId store.catalog)

/-- `prepare`, for a registered fixture. -/
def prepareFor (forRun : Option Uuid) (input : PinInput) (store : PinStore) :
    Except Failure PinStore :=
  match prepareWorld environment.merchantId forRun store.runs with
  | .error failure => .error failure
  | .ok runs =>
      if input.holdsPayment then
        .error
          (.conflict "payment_in_progress"
            s!"benchmark merchant {environment.merchantId} has reservations held against payments that have not resolved"
            (some "benchmark_environment") (some (toString environment.merchantId)))
      else
        match environment.restore input.draws store.catalog with
        | none => .error (.integrityError "uq_variant_merchant_id")
        | some catalog =>
            .ok { store with runs := runs, catalog := catalog, disturbed := false }

/-- `start_run`, with the pin that it takes. -/
def startPinned (call : SuiteCall) (now : Instant) (store : PinStore) :
    Except Failure (SuiteRun × PinStore) :=
  match startRun ⟨call.runId, environment.merchantId⟩ call.missionKeys now store.runs with
  | .error failure => .error failure
  | .ok (run, runs) =>
      .ok (run,
        { store with
          runs := runs
          pins := (run.id, store.contentHash environment) :: store.pins
          overtaken := store.overtaken || store.disturbed })

/-- An executing suite takes a step that does not concern the catalog. -/
def advance (run : SuiteRun) (step : SuiteStep) (input : PinInput) (store : PinStore) :
    PinStore × Option PinStage :=
  let (runs, outcome) := step.act input.toRunInput run store.runs
  ({ store with runs := runs },
    match outcome with
    | .continues next following => some (.executing next following)
    | .returned _ | .raised _ => none)

/-- A purchase with the capability of a run, which has to be the active one. -/
def purchaseFor (run : SuiteRun) (quantities : Uuid → Nat) (store : PinStore) : PinStore :=
  if store.runs.activeRunId environment.merchantId = some run.id then
    { store with
      catalog := store.catalog.consume environment.merchantId quantities, disturbed := true }
  else store

/-- One transaction of a starter. -/
def PinStage.act (stage : PinStage) (input : PinInput) (store : PinStore) :
    PinStore × Option PinStage :=
  match stage with
  | .preparing call =>
      match prepareFor environment none input store with
      | .error _ => (store, none)
      | .ok final => (final, some (.starting call))
  | .starting call =>
      match startPinned environment call input.now store with
      | .error _ => (store, none)
      | .ok (run, final) => (final, some (.executing run (.admitting call.missionKeys)))
  | .executing run step =>
      match step with
      | .preparing missionKey rest =>
          match input.raises, prepareFor environment (some run.id) input store with
          | none, .ok final => (final, some (.executing run (.starting missionKey rest)))
          | _, _ => (store, none)
      | .starting _ _ =>
          let (final, next) := advance run step input store
          (if next.isSome then
            { final with measured := (run.id, store.contentHash environment) :: final.measured }
          else final, next)
      | .calling _ _ =>
          match input.purchase with
          | some quantities => (purchaseFor environment run quantities store, some stage)
          | none => advance run step input store
      | _ => advance run step input store

/-- What happens outside of the starters.  An ordinary command is refused while a run of the
merchant is active. -/
def PinCommand.act (event : PinCommand) (store : PinStore) : PinStore :=
  match event with
  | .command change =>
      if (store.runs.activeRunId environment.merchantId).isSome then store
      else { store with catalog := change store.catalog, disturbed := true }
  | .abort runId now =>
      match perform .abort ⟨runId, environment.merchantId⟩ none now store.runs with
      | .error _ => store
      | .ok (_, runs) => { store with runs := runs }

/-- Starters of suites against one world, and everything that happens around them. -/
def pinSystem : System PinStore SuiteCall PinStage PinInput PinCommand where
  enter call := .preparing call
  act input stage store := stage.act environment input store
  outside event store := event.act environment store

end Steps

abbrev PinWorld := World PinStore PinStage

abbrev PinEvent := Event SuiteCall PinInput PinCommand

/-- The pin of a run is the hash of every catalog that a mission of the run was executed
against, and for the run that is active it is the hash of what a preparation restores. -/
structure PinsDescribe [CatalogDigest] (environment : BenchmarkEnvironment) (store : PinStore) :
    Prop where
  measured : ∀ entry ∈ store.measured, store.pinOf entry.1 = some entry.2
  restored : ∀ runId draws catalog,
    store.runs.activeRunId environment.merchantId = some runId →
      environment.restore draws store.catalog = some catalog →
        store.pinOf runId =
          some (catalogContentHash (catalogEntries environment.merchantId catalog))

/-- Where the step commits the start of a run, nothing has written the catalog since it was
prepared. -/
def StartsPrepared [CatalogDigest] (environment : BenchmarkEnvironment) (world : PinWorld)
    (event : PinEvent) : Prop :=
  ∀ client input call run final, event = .act client input →
    world.clients client = some (.starting call) →
      startPinned environment call input.now world.shared = .ok (run, final) →
        world.shared.disturbed = false

/-! ## Runs that are running -/

/-- A run of the merchant is running. -/
def RunStore.Running (store : RunStore) (merchantId runId : Uuid) : Prop :=
  ∃ row ∈ store.runs, row.merchantId = merchantId ∧ row.status = .running ∧ row.id = runId

namespace RunStore

variable {store final : RunStore} {merchantId runId : Uuid}

theorem running_of_active (active : store.activeRunId merchantId = some runId) :
    store.Running merchantId runId := by
  rcases Option.map_eq_some_iff.mp active with ⟨row, found, sameId⟩
  have isRunning := List.find?_some found
  simp only [Bool.and_eq_true, decide_eq_true_eq] at isRunning
  exact ⟨row, List.mem_of_find?_eq_some found, isRunning.1, isRunning.2, sameId⟩

theorem not_running_of_inactive (inactive : store.activeRunId merchantId = none) :
    ¬store.Running merchantId runId := by
  rintro ⟨row, member, ofMerchant, isRunning, _⟩
  have none := List.find?_eq_none.mp (Option.map_eq_none_iff.mp inactive) row member
  simp [ofMerchant, isRunning] at none

/-- A run that is running is the active one where there is only one. -/
theorem active_of_running
    (single : ∀ first second, store.Running merchantId first → store.Running merchantId second →
      first = second)
    (isRunning : store.Running merchantId runId) :
    store.activeRunId merchantId = some runId := by
  cases active : store.activeRunId merchantId with
  | none => exact absurd isRunning (not_running_of_inactive active)
  | some other => rw [single other runId (running_of_active active) isRunning]

theorem running_congr (same : final.runs = store.runs) :
    final.Running merchantId runId ↔ store.Running merchantId runId := by
  simp only [Running, same]

end RunStore

variable {now : Instant} {operation : RunOperation}

/-- An operation keeps the columns of the run, or it finishes it. -/
theorem row_of_work {run stored : SuiteRun} {written : Written}
    (worked : operation.work run stored now = .ok written) :
    written.stored.toBenchmarkRun = stored.toBenchmarkRun ∨ written.stored.isTerminal = true := by
  have ofFinish : ∀ status, status = .completed ∨ status = .aborted →
      finishRun run stored now status = .ok written → written.stored.isTerminal = true := by
    intro status terminal finished
    unfold finishRun at finished
    split at finished
    · cases finished
    · rcases except_bind_eq_ok_iff.mp finished with ⟨changed, wrote, result⟩
      cases result
      unfold writeRun at wrote
      split at wrote <;> cases wrote
      rcases terminal with rfl | rfl <;> rfl
  cases operation with
  | startMission missionKey => exact Or.inl (rows_of_missionWork worked ⟨nofun, nofun⟩).2
  | record missionKey evaluation => exact Or.inl (rows_of_missionWork worked ⟨nofun, nofun⟩).2
  | complete =>
      change completeRun run stored now = .ok written at worked
      unfold completeRun at worked
      split at worked
      · cases worked
      · exact Or.inr (ofFinish .completed (Or.inl rfl) worked)
  | abort => exact Or.inr (ofFinish .aborted (Or.inr rfl) worked)

/-- What an operation on a run, or none, does to the table of runs: it starts no run and
drops none. -/
structure RunsSettle (before after : RunStore) : Prop where
  rows : ∀ row ∈ before.runs, ∃ next ∈ after.runs, next.id = row.id
  columns : ∀ row ∈ after.runs, row.isTerminal = true ∨
    ∃ earlier ∈ before.runs, earlier.toBenchmarkRun = row.toBenchmarkRun

namespace RunsSettle

variable {before after : RunStore}

theorem of_same (same : after.runs = before.runs) : RunsSettle before after where
  rows row member := ⟨row, same ▸ member, rfl⟩
  columns row member := Or.inr ⟨row, same ▸ member, rfl⟩

theorem perform {address : RunAddress} {held : Option SuiteRun} {run : SuiteRun}
    (performed : Benchmark.perform operation address held now before = .ok (run, after)) :
    RunsSettle before after := by
  rcases perform_eq_ok performed with ⟨stored, written, found, worked, sameAddress, _, rfl⟩
  rcases find?_eq_some_iff.mp found with ⟨storedMem, storedAddress⟩
  have sameId : stored.id = written.stored.id :=
    congrArg RunAddress.runId (storedAddress.trans sameAddress.symm)
  constructor
  · intro row member
    by_cases isStored : row.id = written.stored.id
    · exact ⟨written.stored, (Table.mem_set_iff storedMem sameId).mpr (Or.inl rfl), isStored.symm⟩
    · exact ⟨row, Table.mem_set_of_ne member isStored, rfl⟩
  · intro row member
    rcases (Table.mem_set_iff storedMem sameId).mp member with rfl | ⟨earlier, _⟩
    · rcases row_of_work worked with same | terminal
      · exact Or.inr ⟨stored, storedMem, same.symm⟩
      · exact Or.inl terminal
    · exact Or.inr ⟨row, earlier, rfl⟩

theorem suite (step : SuiteStep) (input : RunInput) (run : SuiteRun) :
    RunsSettle before (step.act input run before).1 := by
  rcases suiteStep_runs step input run before with same | ⟨operation, held, result, performed⟩
  · exact .of_same same
  · exact .perform performed

theorem running (settles : RunsSettle before after) {merchantId runId : Uuid}
    (isRunning : after.Running merchantId runId) : before.Running merchantId runId := by
  rcases isRunning with ⟨row, member, ofMerchant, isRunning, sameId⟩
  rcases settles.columns row member with terminal | ⟨earlier, earlierMem, same⟩
  · simp [SuiteRun.isTerminal, isRunning] at terminal
  · refine ⟨earlier, earlierMem, ?_, ?_, ?_⟩
    · rw [same]
      exact ofMerchant
    · rw [same]
      exact isRunning
    · rw [same]
      exact sameId

theorem begun (settles : RunsSettle before after)
    (begun : ∀ row ∈ before.runs, row.status ≠ .pending) :
    ∀ row ∈ after.runs, row.status ≠ .pending := by
  intro row member pending
  rcases settles.columns row member with terminal | ⟨earlier, earlierMem, same⟩
  · simp [SuiteRun.isTerminal, pending] at terminal
  · apply begun earlier earlierMem
    rw [same]
    exact pending

end RunsSettle

/-! ## Missions that have not begun -/

/-- In the copy that a session holds, none of these missions has begun. -/
def Waiting (run : SuiteRun) (missionKeys : List String) : Prop :=
  missionKeys.Nodup ∧ ∀ missionKey ∈ missionKeys, ∀ mission,
    run.missionRun? missionKey = some mission → mission.status = .pending

/-- The missions that a suite has not come to yet have not begun. -/
def SuiteStep.Ready (run : SuiteRun) : SuiteStep → Prop
  | .admitting remaining => Waiting run remaining
  | .preparing missionKey rest | .starting missionKey rest => Waiting run (missionKey :: rest)
  | .calling missionKey rest | .recording missionKey rest =>
      Waiting run rest ∧ missionKey ∉ rest
  | .completing => True

variable {missionKey : String}

/-- Writing one mission leaves the others. -/
theorem missionRun?_changeMission {run : SuiteRun} {other : String}
    {change : BenchmarkMissionRun → BenchmarkMissionRun} (different : missionKey ≠ other)
    (keepsKey : ∀ mission, (change mission).missionKey = mission.missionKey) :
    (run.changeMission missionKey change).missionRun? other = run.missionRun? other := by
  simp only [SuiteRun.missionRun?, SuiteRun.changeMission]
  induction run.missionRuns with
  | nil => rfl
  | cons mission rest ih =>
      rw [List.map_cons, List.find?_cons, List.find?_cons, ih]
      by_cases isWritten : mission.missionKey = missionKey
      · have isOther : mission.missionKey ≠ other := isWritten ▸ different
        simp [isWritten, keepsKey, different]
      · simp [isWritten]

variable {rest : List String}

theorem Waiting.tail {run : SuiteRun} (waiting : Waiting run (missionKey :: rest)) :
    Waiting run rest ∧ missionKey ∉ rest := by
  rcases waiting with ⟨distinct, pending⟩
  rw [List.nodup_cons] at distinct
  exact ⟨⟨distinct.2, fun key member => pending key (List.mem_cons_of_mem _ member)⟩,
    distinct.1⟩

theorem Waiting.change {run : SuiteRun} {change : BenchmarkMissionRun → BenchmarkMissionRun}
    (waiting : Waiting run rest) (notLeft : missionKey ∉ rest)
    (keepsKey : ∀ mission, (change mission).missionKey = mission.missionKey) :
    Waiting (run.changeMission missionKey change) rest := by
  refine ⟨waiting.1, ?_⟩
  intro key member mission found
  have different : missionKey ≠ key := fun same => notLeft (same ▸ member)
  rw [missionRun?_changeMission different keepsKey] at found
  exact waiting.2 key member mission found

/-- What working on one mission leaves of the copy. -/
theorem Waiting.of_work {run stored : SuiteRun} {written : Written}
    (ofMission : operation = .startMission missionKey ∨
      ∃ evaluation, operation = .record missionKey evaluation)
    (worked : operation.work run stored now = .ok written) (waiting : Waiting run rest)
    (notLeft : missionKey ∉ rest) : Waiting written.held rest := by
  have ofBegin : ∀ {mission begun}, beginPending run stored now missionKey mission = .ok begun →
      Waiting begun.held rest := by
    intro mission begun began
    unfold beginPending at began
    split at began
    · rcases except_bind_eq_ok_iff.mp began with ⟨changed, _, result⟩
      cases result
      exact waiting.change notLeft fun _ => rfl
    · cases began
      exact waiting
  rcases ofMission with rfl | ⟨evaluation, rfl⟩
  · rcases except_bind_eq_ok_iff.mp worked with ⟨_, _, opening⟩
    rcases except_bind_eq_ok_iff.mp opening with ⟨_, _, began⟩
    exact ofBegin began
  · rcases except_bind_eq_ok_iff.mp worked with ⟨_, _, opening⟩
    rcases except_bind_eq_ok_iff.mp opening with ⟨_, _, beginning⟩
    rcases except_bind_eq_ok_iff.mp beginning with ⟨begun, began, recording⟩
    rcases except_bind_eq_ok_iff.mp recording with ⟨changed, _, result⟩
    cases result
    exact (ofBegin began).change notLeft fun _ => rfl

variable {next : SuiteRun}

/-- A mission that had not begun in the copy begins only while its run is not finished. -/
theorem running_of_startMission {run : SuiteRun} {store final : RunStore}
    (begun : ∀ row ∈ store.runs, row.status ≠ .pending)
    (waiting : Waiting run (missionKey :: rest))
    (performed : perform (.startMission missionKey) run.address (some run) now store =
      .ok (next, final)) :
    store.Running run.merchantId run.id := by
  rcases perform_eq_ok performed with ⟨stored, written, found, worked, _, _, _⟩
  rcases find?_eq_some_iff.mp found with ⟨storedMem, storedAddress⟩
  rcases except_bind_eq_ok_iff.mp worked with ⟨_, _, opening⟩
  rcases except_bind_eq_ok_iff.mp opening with ⟨mission, opened, began⟩
  have isFound : run.missionRun? missionKey = some mission := by
    unfold openMission at opened
    simp only [Option.getD_some] at opened
    cases isFound : run.missionRun? missionKey with
    | none => simp [isFound] at opened
    | some other =>
        simp only [isFound] at opened
        split at opened <;> cases opened
        rfl
  have pending : mission.status = .pending :=
    waiting.2 missionKey (List.mem_cons_self ..) mission isFound
  have notTerminal : stored.isTerminal = false := by
    by_contra terminal
    rw [Bool.not_eq_false] at terminal
    unfold beginPending at began
    rw [if_pos pending] at began
    rcases except_bind_eq_ok_iff.mp began with ⟨changed, wrote, _⟩
    rcases writeMission_of_terminal terminal missionKey (beginMission now) with
      ⟨failure, refused, _⟩
    rw [refused] at wrote
    cases wrote
  have isRunning : stored.status = .running := by
    have notPending := begun stored storedMem
    cases status : stored.status <;> simp_all [SuiteRun.isTerminal]
  exact ⟨stored, storedMem, congrArg RunAddress.merchantId storedAddress, isRunning,
    congrArg RunAddress.runId storedAddress⟩

variable {step following : SuiteStep}

/-- A suite that goes on has not begun the missions that it has not come to. -/
theorem SuiteStep.Ready.act {input : RunInput} {run : SuiteRun} {store : RunStore}
    (ready : step.Ready run)
    (continues : (step.act input run store).2 = .continues next following) :
    following.Ready next := by
  cases step with
  | admitting remaining =>
      cases remaining with
      | nil =>
          cases continues
          trivial
      | cons missionKey rest =>
          cases raises : input.raises <;> simp [SuiteStep.act, raises] at continues
          rcases continues with ⟨rfl, rfl⟩
          exact ready
  | preparing missionKey rest =>
      cases raises : input.raises <;> simp only [SuiteStep.act, raises] at continues
      · split at continues <;> cases continues
        exact ready
      · cases continues
  | starting missionKey rest =>
      simp only [SuiteStep.act, suiteOperation] at continues
      split at continues
      · cases continues
      · next performed =>
          cases continues
          rcases perform_eq_ok performed with ⟨_, _, _, worked, _, rfl, _⟩
          exact ⟨.of_work (Or.inl rfl) worked ready.tail.1 ready.tail.2, ready.tail.2⟩
  | calling missionKey rest =>
      cases raises : input.raises <;> simp [SuiteStep.act, raises] at continues
      rcases continues with ⟨rfl, rfl⟩
      exact ready
  | recording missionKey rest =>
      cases raises : input.raises <;> simp only [SuiteStep.act, raises] at continues
      · simp only [suiteOperation] at continues
        split at continues
        · cases continues
        · next performed =>
            cases continues
            rcases perform_eq_ok performed with ⟨_, _, _, worked, _, rfl, _⟩
            exact .of_work (Or.inr ⟨_, rfl⟩) worked ready.1 ready.2
      · cases continues
  | completing =>
      simp only [SuiteStep.act, suiteOperation] at continues
      split at continues <;> cases continues

/-! ## What a step does to the store -/

section Invariant

variable [CatalogDigest] {environment : BenchmarkEnvironment}

/-- What the starters and their surroundings find in the store.  While no run has started over
a disturbed catalog, the active run is pinned to a settled catalog that differs from the
stored one in nothing but its stock. -/
structure PinsAgree (environment : BenchmarkEnvironment) (store : PinStore) : Prop where
  single : ∀ first second, store.runs.Running environment.merchantId first →
    store.runs.Running environment.merchantId second → first = second
  begun : ∀ row ∈ store.runs.runs, row.status ≠ .pending
  named : ∀ pin ∈ store.pins, ∃ row ∈ store.runs.runs, row.id = pin.1
  prepared : store.disturbed = false → Settled environment store.catalog
  pinned : store.overtaken = false → ∀ runId, store.runs.Running environment.merchantId runId →
    ∃ base stock, Settled environment base ∧
      Restocked environment.merchantId base store.catalog stock ∧
      store.pinOf runId = some (catalogContentHash (catalogEntries environment.merchantId base))
  measured : store.overtaken = false → ∀ entry ∈ store.measured,
    store.pinOf entry.1 = some entry.2

/-- What one step does, on behalf of the run of a client. -/
inductive PinMove (environment : BenchmarkEnvironment) (own : Option Uuid) (store : PinStore) :
    PinStore → Prop
  | same : PinMove environment own store store
  | prepared {draws : Draws} {runs : RunStore} {catalog : Catalog}
      (sameRuns : runs.runs = store.runs.runs)
      (unclaimed : store.runs.activeRunId environment.merchantId = none ∨
        store.runs.activeRunId environment.merchantId = own)
      (restored : environment.restore draws store.catalog = some catalog) :
      PinMove environment own store
        { store with runs := runs, catalog := catalog, disturbed := false }
  | started {call : SuiteCall} {now : Instant} {run : SuiteRun} {final : PinStore}
      (started : startPinned environment call now store = .ok (run, final)) :
      PinMove environment own store final
  | advanced {runs : RunStore} (settles : RunsSettle store.runs runs) :
      PinMove environment own store { store with runs := runs }
  | measured {runs : RunStore} {runId : Uuid} (settles : RunsSettle store.runs runs)
      (pin : store.overtaken = false →
        store.pinOf runId = some (store.contentHash environment)) :
      PinMove environment own store
        { store with
          runs := runs
          measured := (runId, store.contentHash environment) :: store.measured }
  | bought {runId : Uuid} {quantities : Uuid → Nat} (isOwn : own = some runId)
      (active : store.runs.activeRunId environment.merchantId = some runId) :
      PinMove environment own store
        { store with
          catalog := store.catalog.consume environment.merchantId quantities
          disturbed := true }
  | commanded {change : Catalog → Catalog}
      (inactive : store.runs.activeRunId environment.merchantId = none) :
      PinMove environment own store
        { store with catalog := change store.catalog, disturbed := true }

variable {own : Option Uuid} {store final : PinStore}

/-- What a start commits. -/
theorem startPinned_eq_ok {call : SuiteCall} {run : SuiteRun}
    (started : startPinned environment call now store = .ok (run, final)) :
    store.runs.activeRunId environment.merchantId = none ∧
      run = createdRun ⟨call.runId, environment.merchantId⟩ call.missionKeys now ∧
      (∀ row ∈ store.runs.runs, row.id ≠ call.runId) ∧
      (∀ row, row ∈ final.runs.runs ↔ row ∈ store.runs.runs ∨ row = run) ∧
      final.catalog = store.catalog ∧ final.measured = store.measured ∧
      final.pins = (call.runId, store.contentHash environment) :: store.pins ∧
      final.disturbed = store.disturbed ∧
      final.overtaken = (store.overtaken || store.disturbed) := by
  unfold startPinned at started
  split at started
  · cases started
  · next created =>
      cases started
      rcases startRun_eq_ok created with ⟨inactive, rfl, runs, inserted, rfl⟩
      refine ⟨inactive, rfl, (Table.insert?_eq_some_iff.mp inserted).1, ?_, rfl, rfl, rfl, rfl, rfl⟩
      exact fun row => Table.mem_insert?_iff inserted

/-- After a start its run is the only one that is running. -/
theorem running_of_started {call : SuiteCall} {run : SuiteRun} {runId : Uuid}
    (started : startPinned environment call now store = .ok (run, final))
    (isRunning : final.runs.Running environment.merchantId runId) : runId = call.runId := by
  rcases startPinned_eq_ok started with ⟨inactive, runEq, _, rows, _⟩
  rcases isRunning with ⟨row, member, ofMerchant, isRunning, rfl⟩
  rcases (rows row).mp member with earlier | rfl
  · exact absurd ⟨row, earlier, ofMerchant, isRunning, rfl⟩
      (RunStore.not_running_of_inactive inactive)
  · rw [runEq]
    rfl

/-- An older pin is found behind a new one. -/
theorem pinOf_of_started {call : SuiteCall} {run : SuiteRun} {runId : Uuid} {pin : ContentHash}
    (agree : PinsAgree environment store)
    (started : startPinned environment call now store = .ok (run, final))
    (pinned : store.pinOf runId = some pin) : final.pinOf runId = some pin := by
  rcases startPinned_eq_ok started with ⟨_, _, fresh, _, _, _, pinsEq, _⟩
  have member : (runId, pin) ∈ store.pins := by
    rcases List.lookup_eq_some_iff.mp pinned with ⟨before, after, pinsEq, _⟩
    simp [pinsEq]
  rcases agree.named _ member with ⟨row, rowMem, sameId⟩
  have different : runId ≠ call.runId := fun same => fresh row rowMem (sameId.trans same)
  rw [PinStore.pinOf, pinsEq, List.lookup_cons, beq_false_of_ne different]
  exact pinned

/-- Runs that settle keep the agreement. -/
theorem PinsAgree.advance (agree : PinsAgree environment store) {runs : RunStore}
    (settles : RunsSettle store.runs runs) :
    PinsAgree environment { store with runs := runs } := by
  refine ⟨?_, settles.begun agree.begun, ?_, agree.prepared, ?_, agree.measured⟩
  · intro first second firstRuns secondRuns
    exact agree.single first second (settles.running firstRuns) (settles.running secondRuns)
  · intro pin member
    rcases agree.named pin member with ⟨row, rowMem, sameId⟩
    rcases settles.rows row rowMem with ⟨next, nextMem, nextId⟩
    exact ⟨next, nextMem, nextId.trans sameId⟩
  · exact fun calm runId isRunning => agree.pinned calm runId (settles.running isRunning)

/-- The agreement is kept by every step. -/
theorem PinsAgree.move (agree : PinsAgree environment store)
    (moves : PinMove environment own store final) : PinsAgree environment final := by
  cases moves with
  | same => exact agree
  | @prepared draws runs catalog sameRuns unclaimed restored =>
      have running : ∀ runId, runs.Running environment.merchantId runId ↔
          store.runs.Running environment.merchantId runId :=
        fun runId => RunStore.running_congr sameRuns
      refine ⟨?_, sameRuns ▸ agree.begun, sameRuns ▸ agree.named,
        fun _ => settled_of_restore restored, ?_, agree.measured⟩
      · intro first second firstRuns secondRuns
        exact agree.single first second ((running first).mp firstRuns)
          ((running second).mp secondRuns)
      · intro calm runId isRunning
        rcases agree.pinned calm runId ((running runId).mp isRunning) with
          ⟨base, stock, settled, restocked, pin⟩
        rw [restore_of_restocked settled restocked] at restored
        cases restored
        exact ⟨catalog, _, settled, .self environment.merchantId catalog, pin⟩
  | started started =>
      rcases startPinned_eq_ok started with
        ⟨inactive, runEq, fresh, rows, catalogEq, measuredEq, pinsEq, disturbedEq, overtakenEq⟩
      constructor
      · intro first second firstRuns secondRuns
        exact (running_of_started started firstRuns).trans
          (running_of_started started secondRuns).symm
      · intro row member
        rcases (rows row).mp member with earlier | rfl
        · exact agree.begun row earlier
        · rw [runEq]
          nofun
      · intro pin member
        rw [pinsEq] at member
        rcases List.mem_cons.mp member with rfl | earlier
        · exact ⟨_, (rows _).mpr (Or.inr rfl), by rw [runEq]; rfl⟩
        · rcases agree.named pin earlier with ⟨row, rowMem, sameId⟩
          exact ⟨row, (rows row).mpr (Or.inl rowMem), sameId⟩
      · rw [disturbedEq, catalogEq]
        exact agree.prepared
      · intro calm runId isRunning
        rw [overtakenEq, Bool.or_eq_false_iff] at calm
        obtain rfl := running_of_started started isRunning
        refine ⟨store.catalog, fun variant => variant.inventoryQuantity, agree.prepared calm.2,
          ?_, ?_⟩
        · rw [catalogEq]
          exact .self environment.merchantId store.catalog
        · rw [PinStore.pinOf, pinsEq, List.lookup_cons_self]
          rfl
      · intro calm entry member
        rw [overtakenEq, Bool.or_eq_false_iff] at calm
        rw [measuredEq] at member
        exact pinOf_of_started agree started (agree.measured calm.1 entry member)
  | advanced settles => exact agree.advance settles
  | measured settles pin =>
      refine { agree.advance settles with measured := ?_ }
      intro calm
      exact List.forall_mem_cons.mpr ⟨pin calm, agree.measured calm⟩
  | bought isOwn active =>
      refine ⟨agree.single, agree.begun, agree.named, nofun, ?_, agree.measured⟩
      intro calm runId isRunning
      rcases agree.pinned calm runId isRunning with ⟨base, stock, settled, restocked, pin⟩
      rcases restocked.consume with ⟨later, sold⟩
      exact ⟨base, later, settled, sold, pin⟩
  | commanded inactive =>
      refine ⟨agree.single, agree.begun, agree.named, nofun, ?_, agree.measured⟩
      exact fun _ _ isRunning => absurd isRunning (RunStore.not_running_of_inactive inactive)

/-! ## What a starter relies on -/

/-- The run that a starter has created. -/
def PinStage.ownRun : PinStage → Option Uuid
  | .preparing _ | .starting _ => none
  | .executing run _ => some run.id

/-- The world is prepared for the next mission of a run that is still running. -/
def ReadyToMeasure (environment : BenchmarkEnvironment) (run : SuiteRun) (store : PinStore) :
    Prop :=
  store.overtaken = false → store.runs.Running environment.merchantId run.id →
    store.pinOf run.id = some (store.contentHash environment)

def PinStage.Relies (environment : BenchmarkEnvironment) (store : PinStore) : PinStage → Prop
  | .preparing _ | .starting _ => True
  | .executing run step =>
      run.merchantId = environment.merchantId ∧ (∃ row ∈ store.runs.runs, row.id = run.id) ∧
        step.Ready run ∧
        ∀ missionKey rest, step = .starting missionKey rest → ReadyToMeasure environment run store

omit [CatalogDigest] in
/-- What a preparation commits. -/
theorem prepareFor_eq_ok {forRun : Option Uuid} {input : PinInput}
    (prepared : prepareFor environment forRun input store = .ok final) :
    ∃ runs catalog, runs.runs = store.runs.runs ∧
      (store.runs.activeRunId environment.merchantId = none ∨
        store.runs.activeRunId environment.merchantId = forRun) ∧
      environment.restore input.draws store.catalog = some catalog ∧
      final = { store with runs := runs, catalog := catalog, disturbed := false } := by
  unfold prepareFor at prepared
  split at prepared
  · cases prepared
  · next runs allowed =>
      rcases prepareWorld_eq_ok allowed with ⟨unclaimed, runsEq⟩
      split at prepared
      · cases prepared
      · split at prepared
        · cases prepared
        · next catalog restored =>
            cases prepared
            exact ⟨runs, catalog, by rw [runsEq], unclaimed, restored, rfl⟩

/-- A suite that takes a step of its own moves the runs alone, and stands where its run
allows. -/
theorem advance_spec (input : PinInput) {run : SuiteRun}
    (relies : (PinStage.executing run step).Relies environment store) :
    ∃ runs, (advance run step input store).1 = { store with runs := runs } ∧
      RunsSettle store.runs runs ∧
      ∀ stage, (advance run step input store).2 = some stage →
        ∃ next following, stage = .executing next following ∧
          (step.act input.toRunInput run store.runs).2 = .continues next following ∧
          next.toBenchmarkRun = run.toBenchmarkRun ∧ following.Ready next := by
  refine ⟨(step.act input.toRunInput run store.runs).1, rfl, .suite step input.toRunInput run, ?_⟩
  intro stage leads
  simp only [advance] at leads
  split at leads
  · next next following continues =>
      cases leads
      exact ⟨next, following, rfl, continues, row_of_suiteStep continues,
        relies.2.2.1.act continues⟩
  · cases leads
  · cases leads

/-- What a suite relies on is kept by a step of its own that leads to no mission's start. -/
theorem relies_of_advance {run : SuiteRun} {runs : RunStore} {sameCatalog : PinStore}
    (relies : (PinStage.executing run step).Relies environment store)
    (settles : RunsSettle store.runs runs) (sameRun : next.toBenchmarkRun = run.toBenchmarkRun)
    (ready : following.Ready next) (sameRuns : sameCatalog.runs = runs)
    (notStarting : ∀ missionKey rest, following ≠ .starting missionKey rest) :
    (PinStage.executing next following).Relies environment sameCatalog := by
  rcases relies with ⟨ofMerchant, ⟨row, rowMem, rowId⟩, _, _⟩
  rcases settles.rows row rowMem with ⟨later, laterMem, laterId⟩
  refine ⟨?_, ⟨later, sameRuns ▸ laterMem, ?_⟩, ready, ?_⟩
  · rw [sameRun]
    exact ofMerchant
  · rw [laterId, rowId, sameRun]
  · intro missionKey rest isStarting
    exact absurd isStarting (notStarting missionKey rest)

omit [CatalogDigest] in
/-- Only a preparation leads to the start of a mission. -/
theorem not_starting_of_act {input : RunInput} {run : SuiteRun} {runs : RunStore}
    (notPreparing : ∀ missionKey rest, step ≠ .preparing missionKey rest)
    (continues : (step.act input run runs).2 = .continues next following) :
    ∀ missionKey rest, following ≠ .starting missionKey rest := by
  rintro missionKey rest rfl
  cases step with
  | admitting remaining =>
      cases remaining with
      | nil => cases continues
      | cons key later =>
          cases raises : input.raises <;> simp [SuiteStep.act, raises] at continues
  | preparing key later => exact notPreparing key later rfl
  | starting key later | completing =>
      simp only [SuiteStep.act, suiteOperation] at continues
      split at continues <;> cases continues
  | calling key later =>
      cases raises : input.raises <;> simp [SuiteStep.act, raises] at continues
  | recording key later =>
      cases raises : input.raises <;> simp only [SuiteStep.act, raises] at continues
      · simp only [suiteOperation] at continues
        split at continues <;> cases continues
      · cases continues

/-- A step of a suite that does not concern the catalog: what it does, and what it leaves its
client with. -/
theorem act_advance (own : Option Uuid) (input : PinInput) {run : SuiteRun}
    (relies : (PinStage.executing run step).Relies environment store)
    (notPreparing : ∀ missionKey rest, step ≠ .preparing missionKey rest) :
    PinMove environment own store (advance run step input store).1 ∧
      ∀ stage, (advance run step input store).2 = some stage →
        stage.Relies environment (advance run step input store).1 ∧
          stage.ownRun = some run.id := by
  rcases advance_spec input relies with ⟨runs, finalEq, settles, leads⟩
  rw [finalEq]
  refine ⟨.advanced settles, ?_⟩
  intro stage stageEq
  rcases leads stage stageEq with ⟨next, following, rfl, continues, sameRun, ready⟩
  refine ⟨relies_of_advance relies settles sameRun ready rfl
    (not_starting_of_act notPreparing continues), ?_⟩
  rw [PinStage.ownRun, sameRun]

/-- The start of a mission is measured against the catalog that was prepared for it. -/
theorem act_starting {run : SuiteRun} {input : PinInput} (agree : PinsAgree environment store)
    (relies : (PinStage.executing run (.starting missionKey rest)).Relies environment store) :
    let result := (PinStage.executing run (.starting missionKey rest)).act environment input store
    PinMove environment (some run.id) store result.1 ∧
      ∀ next, result.2 = some next → next.Relies environment result.1 ∧
        (next.ownRun = some run.id ∨
          ∃ runId, next.ownRun = some runId ∧ ∀ row ∈ store.runs.runs, row.id ≠ runId) := by
  rcases advance_spec input relies with ⟨runs, finalEq, settles, leads⟩
  simp only [PinStage.act]
  rw [finalEq]
  cases isNext : (advance run (.starting missionKey rest) input store).2 with
  | none => exact ⟨.advanced settles, fun _ leads => by cases leads⟩
  | some stage =>
      rcases leads stage isNext with ⟨next, following, rfl, continues, sameRun, ready⟩
      have isRunning : store.runs.Running run.merchantId run.id := by
        simp only [SuiteStep.act, suiteOperation] at continues
        split at continues
        · cases continues
        · next performed => exact running_of_startMission agree.begun relies.2.2.1 performed
      rw [relies.1] at isRunning
      refine ⟨.measured settles fun calm => relies.2.2.2 _ _ rfl calm isRunning, ?_⟩
      rintro _ ⟨⟩
      refine ⟨relies_of_advance relies settles sameRun ready rfl
        (not_starting_of_act (fun _ _ same => by cases same) continues), Or.inl ?_⟩
      rw [PinStage.ownRun, sameRun]

/-- A purchase with a capability leaves the suite where it is. -/
theorem act_purchase {run : SuiteRun} (quantities : Uuid → Nat)
    (relies : (PinStage.executing run (.calling missionKey rest)).Relies environment store) :
    PinMove environment (some run.id) store (purchaseFor environment run quantities store) ∧
      ∀ next, some (PinStage.executing run (.calling missionKey rest)) = some next →
        next.Relies environment (purchaseFor environment run quantities store) ∧
          (next.ownRun = some run.id ∨
            ∃ runId, next.ownRun = some runId ∧ ∀ row ∈ store.runs.runs, row.id ≠ runId) := by
  unfold purchaseFor
  split
  · next active =>
      refine ⟨.bought rfl active, ?_⟩
      rintro _ ⟨⟩
      exact ⟨⟨relies.1, relies.2.1, relies.2.2.1, fun _ _ same => by cases same⟩, Or.inl rfl⟩
  · refine ⟨.same, ?_⟩
    rintro _ ⟨⟩
    exact ⟨relies, Or.inl rfl⟩

/-- What a step of a starter does, and what it leaves its client with. -/
theorem act_pin (stage : PinStage) (input : PinInput) (agree : PinsAgree environment store)
    (relies : stage.Relies environment store) :
    PinMove environment stage.ownRun store (stage.act environment input store).1 ∧
      ∀ next, (stage.act environment input store).2 = some next →
        next.Relies environment (stage.act environment input store).1 ∧
          (next.ownRun = stage.ownRun ∨
            ∃ runId, next.ownRun = some runId ∧ ∀ row ∈ store.runs.runs, row.id ≠ runId) := by
  cases stage with
  | preparing call =>
      cases prepared : prepareFor environment none input store with
      | error failure =>
          simp only [PinStage.act, prepared]
          exact ⟨.same, fun _ leads => by cases leads⟩
      | ok final =>
          rcases prepareFor_eq_ok prepared with
            ⟨runs, catalog, sameRuns, unclaimed, restored, rfl⟩
          simp only [PinStage.act, prepared]
          refine ⟨.prepared sameRuns unclaimed restored, ?_⟩
          rintro next ⟨⟩
          exact ⟨trivial, Or.inl rfl⟩
  | starting call =>
      cases started : startPinned environment call input.now store with
      | error failure =>
          simp only [PinStage.act, started]
          exact ⟨.same, fun _ leads => by cases leads⟩
      | ok result =>
          rcases result with ⟨run, final⟩
          rcases startPinned_eq_ok started with ⟨_, rfl, fresh, rows, _⟩
          simp only [PinStage.act, started]
          refine ⟨.started started, ?_⟩
          rintro next ⟨⟩
          refine ⟨⟨rfl, ⟨_, (rows _).mpr (Or.inr rfl), rfl⟩, ?_, fun _ _ same => by cases same⟩,
            Or.inr ⟨call.runId, rfl, fresh⟩⟩
          refine ⟨call.distinct, ?_⟩
          intro missionKey _ mission found
          rcases List.mem_map.mp (List.mem_of_find?_eq_some found) with ⟨_, _, rfl⟩
          rfl
  | executing run step =>
      cases step with
      | preparing missionKey rest =>
          cases raises : input.raises with
          | some raised =>
              simp only [PinStage.act, raises]
              exact ⟨.same, fun _ leads => by cases leads⟩
          | none =>
              cases prepared : prepareFor environment (some run.id) input store with
              | error failure =>
                  simp only [PinStage.act, raises, prepared]
                  exact ⟨.same, fun _ leads => by cases leads⟩
              | ok final =>
                  rcases prepareFor_eq_ok prepared with
                    ⟨runs, catalog, sameRuns, unclaimed, restored, rfl⟩
                  simp only [PinStage.act, raises, prepared]
                  have moves : PinMove environment (some run.id) store _ :=
                    .prepared sameRuns unclaimed restored
                  refine ⟨moves, ?_⟩
                  rintro next ⟨⟩
                  rcases relies with ⟨ofMerchant, ⟨row, rowMem, rowId⟩, ready, _⟩
                  refine ⟨⟨ofMerchant, ⟨row, sameRuns ▸ rowMem, rowId⟩, ready, ?_⟩, Or.inl rfl⟩
                  intro _ _ _ calm isRunning
                  rcases agree.pinned calm run.id
                    ((RunStore.running_congr sameRuns).mp isRunning) with
                    ⟨base, stock, settled, restocked, pin⟩
                  rw [restore_of_restocked settled restocked] at restored
                  cases restored
                  exact pin
      | starting missionKey rest =>
          exact act_starting agree relies
      | calling missionKey rest =>
          cases buys : input.purchase with
          | none =>
              simp only [PinStage.act, buys]
              have advanced :=
            act_advance (some run.id) input relies fun _ _ same => by cases same
              exact ⟨advanced.1, fun next leads => ⟨(advanced.2 next leads).1,
                Or.inl (advanced.2 next leads).2⟩⟩
          | some quantities =>
              simp only [PinStage.act, buys]
              exact act_purchase quantities relies
      | admitting remaining =>
          have advanced :=
            act_advance (some run.id) input relies fun _ _ same => by cases same
          exact ⟨advanced.1, fun next leads => ⟨(advanced.2 next leads).1,
            Or.inl (advanced.2 next leads).2⟩⟩
      | recording missionKey rest =>
          have advanced :=
            act_advance (some run.id) input relies fun _ _ same => by cases same
          exact ⟨advanced.1, fun next leads => ⟨(advanced.2 next leads).1,
            Or.inl (advanced.2 next leads).2⟩⟩
      | completing =>
          have advanced :=
            act_advance (some run.id) input relies fun _ _ same => by cases same
          exact ⟨advanced.1, fun next leads => ⟨(advanced.2 next leads).1,
            Or.inl (advanced.2 next leads).2⟩⟩

/-! ## What the others rely on -/

/-- What a starter relies on is kept by a step that is not on behalf of its run. -/
theorem relies_of_move {other : PinStage} (agree : PinsAgree environment store)
    (moves : PinMove environment own store final) (relies : other.Relies environment store)
    (isOther : ∀ runId, own = some runId → other.ownRun ≠ some runId) :
    other.Relies environment final := by
  cases other with
  | preparing call => trivial
  | starting call => trivial
  | executing run step =>
      rcases relies with ⟨ofMerchant, ⟨row, rowMem, rowId⟩, ready, measures⟩
      -- A run that is running is the active one, so no other run prepares or buys.
      have unclaimed : store.runs.Running environment.merchantId run.id →
          ¬(store.runs.activeRunId environment.merchantId = none ∨
            store.runs.activeRunId environment.merchantId = own) := by
        intro isRunning
        rw [RunStore.active_of_running agree.single isRunning]
        rintro (inactive | isOwn)
        · cases inactive
        · exact isOther run.id isOwn.symm rfl
      cases moves with
      | same => exact ⟨ofMerchant, ⟨row, rowMem, rowId⟩, ready, measures⟩
      | prepared sameRuns claimed restored =>
          refine ⟨ofMerchant, ⟨row, sameRuns ▸ rowMem, rowId⟩, ready, ?_⟩
          intro _ _ _ _ isRunning
          exact absurd claimed (unclaimed ((RunStore.running_congr sameRuns).mp isRunning))
      | started started =>
          rcases startPinned_eq_ok started with ⟨_, _, fresh, rows, _⟩
          refine ⟨ofMerchant, ⟨row, (rows row).mpr (Or.inl rowMem), rowId⟩, ready, ?_⟩
          intro _ _ _ _ isRunning
          have isNew := running_of_started started isRunning
          exact absurd (rowId.trans isNew) (fresh row rowMem)
      | advanced settles =>
          rcases settles.rows row rowMem with ⟨later, laterMem, laterId⟩
          refine ⟨ofMerchant, ⟨later, laterMem, laterId.trans rowId⟩, ready, ?_⟩
          intro missionKey rest isStarting calm isRunning
          exact measures missionKey rest isStarting calm (settles.running isRunning)
      | measured settles pin =>
          rcases settles.rows row rowMem with ⟨later, laterMem, laterId⟩
          refine ⟨ofMerchant, ⟨later, laterMem, laterId.trans rowId⟩, ready, ?_⟩
          intro missionKey rest isStarting calm isRunning
          exact measures missionKey rest isStarting calm (settles.running isRunning)
      | bought isOwn active =>
          refine ⟨ofMerchant, ⟨row, rowMem, rowId⟩, ready, ?_⟩
          intro _ _ _ _ isRunning
          exact absurd (Or.inr (active.trans isOwn.symm)) (unclaimed isRunning)
      | commanded inactive =>
          refine ⟨ofMerchant, ⟨row, rowMem, rowId⟩, ready, ?_⟩
          intro _ _ _ _ isRunning
          exact absurd (Or.inl inactive) (unclaimed isRunning)

/-- What happens outside is a move on behalf of no run. -/
theorem command_move (event : PinCommand) :
    PinMove environment none store (event.act environment store) := by
  cases event with
  | command change =>
      cases active : store.runs.activeRunId environment.merchantId with
      | some runId =>
          simp only [PinCommand.act, active, Option.isSome_some, if_true]
          exact .same
      | none =>
          simp only [PinCommand.act, active, Option.isSome_none, Bool.false_eq_true, if_false]
          exact .commanded active
  | abort runId now =>
      cases performed : perform .abort ⟨runId, environment.merchantId⟩ none now store.runs with
      | error failure =>
          simp only [PinCommand.act, performed]
          exact .same
      | ok result =>
          simp only [PinCommand.act, performed]
          exact .advanced (.perform performed)

/-- Starters of different runs. -/
def pinDiscipline (environment : BenchmarkEnvironment) : System.Discipline PinStore PinStage where
  shared := PinsAgree environment
  relies store stage := stage.Relies environment store
  apart first second := ∀ runId, first.ownRun = some runId → second.ownRun ≠ some runId

theorem pin_keeps (environment : BenchmarkEnvironment) :
    System.Keeps (pinSystem environment) System.Regime.free (pinDiscipline environment) where
  symmetric apart runId ofSecond ofFirst := apart runId ofFirst ofSecond
  enterRelies _ _ _ := trivial
  enterApart _ _ := nofun
  actShared input stage _ agree relies := agree.move (act_pin stage input agree relies).1
  actRelies input stage _ next agree relies leads :=
    ((act_pin stage input agree relies).2 next leads).1
  actOthers input stage _ _ agree relies otherRelies apart :=
    relies_of_move agree (act_pin stage input agree relies).1 otherRelies apart
  actApart input stage _ next other agree relies otherRelies apart leads _ := by
    rcases ((act_pin stage input agree relies).2 next leads).2 with same | ⟨runId, isNew, fresh⟩
    · intro runId isNext
      exact apart runId (same ▸ isNext)
    · intro otherId isNext isOther
      obtain rfl : runId = otherId := Option.some.inj (isNew.symm.trans isNext)
      cases other with
      | preparing call => cases isOther
      | starting call => cases isOther
      | executing run step =>
          rcases otherRelies with ⟨_, ⟨row, rowMem, rowId⟩, _⟩
          exact fresh row rowMem (rowId.trans (Option.some.inj isOther))
  outsideShared event _ _ agree := agree.move (command_move event)
  outsideOthers event _ _ _ agree relies := relies_of_move agree (command_move event) relies nofun

/-! ## Runs -/

/-- No run has started, and nothing is known about the catalog. -/
def openingStore (catalog : Catalog) : PinStore where
  runs := { runs := .empty }
  catalog := catalog

theorem pinsAgree_opening (environment : BenchmarkEnvironment) (catalog : Catalog) :
    PinsAgree environment (openingStore catalog) where
  single _ _ := by
    rintro ⟨row, member, _⟩
    exact absurd member (Table.not_mem_empty row)
  begun row member := absurd member (Table.not_mem_empty row)
  named := nofun
  prepared := nofun
  pinned _ _ := by
    rintro ⟨row, member, _⟩
    exact absurd member (Table.not_mem_empty row)
  measured _ := nofun

/-- Only a start can be overtaken. -/
theorem overtaken_act (environment : BenchmarkEnvironment) (stage : PinStage) (input : PinInput) (store : PinStore) :
    (stage.act environment input store).1.overtaken = store.overtaken ∨
      ∃ call run, stage = .starting call ∧
        startPinned environment call input.now store =
          .ok (run, (stage.act environment input store).1) := by
  cases stage with
  | preparing call =>
      cases prepared : prepareFor environment none input store with
      | error failure => exact Or.inl (by simp only [PinStage.act, prepared])
      | ok final =>
          rcases prepareFor_eq_ok prepared with ⟨_, _, _, _, _, rfl⟩
          exact Or.inl (by simp only [PinStage.act, prepared])
  | starting call =>
      cases started : startPinned environment call input.now store with
      | error failure => exact Or.inl (by simp only [PinStage.act, started])
      | ok result => exact Or.inr ⟨call, result.1, rfl, by simp only [PinStage.act, started]⟩
  | executing run step =>
      left
      cases step with
      | preparing missionKey rest =>
          simp only [PinStage.act]
          split
          · next prepared =>
              rcases prepareFor_eq_ok prepared with ⟨_, _, _, _, _, rfl⟩
              rfl
          · rfl
      | starting missionKey rest =>
          simp only [PinStage.act]
          split <;> rfl
      | calling missionKey rest =>
          simp only [PinStage.act]
          split
          · unfold purchaseFor
            split <;> rfl
          · rfl
      | admitting remaining | recording missionKey rest | completing => rfl

/-- A run in which every start finds the catalog prepared is never overtaken. -/
theorem overtaken_step {world : PinWorld} {event : PinEvent}
    (calm : world.shared.overtaken = false) (prepared : StartsPrepared environment world event) :
    ((pinSystem environment).step event world).shared.overtaken = false := by
  cases event with
  | arrive client call =>
      cases isFree : world.clients client <;> simpa only [System.step, isFree] using calm
  | act client input =>
      cases busy : world.clients client with
      | none => simpa only [System.step, busy] using calm
      | some stage =>
          simp only [System.step, busy]
          rcases overtaken_act environment stage input world.shared with
            same | ⟨call, run, rfl, started⟩
          · exact same.trans calm
          · rcases startPinned_eq_ok started with ⟨_, _, _, _, _, _, _, _, overtakenEq⟩
            have undisturbed := prepared client input call run _ rfl busy started
            exact overtakenEq.trans (by rw [calm, undisturbed]; rfl)
  | crash client => exact calm
  | outside event =>
      cases event with
      | command change =>
          simp only [System.step, pinSystem, PinCommand.act]
          split <;> exact calm
      | abort runId now =>
          simp only [System.step, pinSystem, PinCommand.act]
          split <;> exact calm

/-- The pins describe the world where every start so far has found it prepared. -/
theorem PinsAgree.describe (agree : PinsAgree environment store)
    (calm : store.overtaken = false) : PinsDescribe environment store where
  measured := agree.measured calm
  restored runId draws catalog active restored := by
    rcases agree.pinned calm runId (RunStore.running_of_active active) with
      ⟨base, stock, settled, restocked, pin⟩
    rw [restore_of_restocked settled restocked] at restored
    cases restored
    exact pin

/-- In every run of the system in which no start commits over a catalog that has been written
since it was prepared, every run is pinned to the hash of the catalog that each of its
missions is executed against, which is the one that a preparation restores. -/
theorem pins_describe (environment : BenchmarkEnvironment) (catalog : Catalog)
    (events : List PinEvent)
    (prepared : Guarded (pinSystem environment).step (StartsPrepared environment)
      (World.opening (openingStore catalog)) events) :
    PinsDescribe environment
      (run (pinSystem environment).step (World.opening (openingStore catalog)) events).shared := by
  have obeys := System.Obeys.run
    (System.obeys_opening (pinsAgree_opening environment catalog))
    (pin_keeps environment)
    (System.guarded_free (pinSystem environment) (World.opening (openingStore catalog)) events)
  have everyStep : ∀ (world : PinWorld) (event : PinEvent), world.shared.overtaken = false →
      StartsPrepared environment world event →
        ((pinSystem environment).step event world).shared.overtaken = false :=
    fun _ _ => overtaken_step
  exact PinsAgree.describe obeys.shared (run_invariant everyStep rfl prepared)

end Invariant

/-! ## Two starts of one world -/

section Sample

def fiveHash : ContentHash where
  text := "sha256:c1fbba182935eaf3b1d4c6df1d665574f5afdf128d05c36c237ed35633eb634b"
  isLabelled := by decide +kernel
  length := by decide +kernel

def fourHash : ContentHash where
  text := "sha256:2cf5f3fc138f77d286f9719f55237923a2270f62254ff51ed1b62066f813210a"
  isLabelled := by decide +kernel
  length := by decide +kernel

local instance chargerDigest : CatalogDigest where
  digest payload :=
    match payload.get? "TW-1" with
    | some entry => if entry.inventoryQuantity = 5 then fiveHash else fourHash
    | none => fourHash

/-- A charger of which there are five. -/
def chargerSeed : SeedVariant where
  sku := "TW-1"
  fields :=
    { label := some "Black"
      priceAmountMinor := 100000
      currency := "INR"
      inventoryQuantity := 5
      attributes := ⟨[("color", .scalar (.string "black"))], by decide⟩
      isActive := true
      isCurrency := Constraints.isCurrencyCode_inr }

def testWorld : BenchmarkEnvironment where
  merchantId := 0
  fixture :=
    { products :=
        [{ externalId := "TW-CHG"
           fields :=
             { title := "Charger", description := none, category := some "chargers",
               isActive := true }
           variants := [chargerSeed] }]
      externalIdsNodup := by decide
      skusNodup := by decide }

def pinInput : PinInput where
  now := 10
  evaluation := { status := .succeeded }
  draws := { product := fun _ => 100, variant := fun _ => 200 }

def oneMission (runId : Uuid) : SuiteCall where
  runId := runId
  missionKeys := ["first"]
  distinct := by decide

/-- The world is prepared and a run of one mission is started, which begins. -/
def beginsAfter (between : List PinEvent) : List PinEvent :=
  [.arrive 0 (oneMission 1), .act 0 pinInput] ++ between ++ List.replicate 4 (.act 0 pinInput)

def worldAfter (events : List PinEvent) : PinWorld :=
  run (pinSystem testWorld).step (World.opening (openingStore .empty)) events

/-- One charger is sold after the world was prepared, and before the run starts. -/
def soldBetween : List PinEvent :=
  beginsAfter [.outside (.command (Catalog.consume 0 fun _ => 1))]

/-- A sale between the preparation and the start is pinned, and the mission is executed against
the restored shelf. -/
theorem pinned_after_sale : ¬PinsDescribe testWorld (worldAfter soldBetween).shared := by
  intro describe
  have isMeasured : (worldAfter soldBetween).shared.measured = [(1, fiveHash)] := by
    decide +kernel
  have isPinned : (worldAfter soldBetween).shared.pinOf 1 = some fourHash := by
    decide +kernel
  have same := describe.measured (1, fiveHash) (by rw [isMeasured]; exact List.mem_singleton_self _)
  rw [isPinned] at same
  exact absurd same (by decide +kernel)

/-- Where nothing comes between, the mission is executed against what was pinned. -/
theorem pins_describe_sample :
    (worldAfter (beginsAfter [])).shared.measured = [(1, fiveHash)] ∧
      (worldAfter (beginsAfter [])).shared.pinOf 1 = some fiveHash := by
  have isMeasured : (worldAfter (beginsAfter [])).shared.measured = [(1, fiveHash)] := by
    decide +kernel
  have prepared : Guarded (pinSystem testWorld).step (StartsPrepared testWorld)
      (World.opening (openingStore .empty)) (beginsAfter []) := by
    refine ⟨?_, ?_, ?_, ?_, ?_, ?_, trivial⟩
    · rintro _ _ _ _ _ ⟨⟩
    · rintro _ _ _ _ _ ⟨⟩ ⟨⟩
    · rintro _ _ _ _ _ ⟨⟩ _ _
      decide +kernel
    · rintro _ _ _ _ _ ⟨⟩ _ _
      decide +kernel
    · rintro _ _ _ _ _ ⟨⟩ _ _
      decide +kernel
    · rintro _ _ _ _ _ ⟨⟩ _ _
      decide +kernel
  have describe := pins_describe testWorld .empty (beginsAfter []) prepared
  exact ⟨isMeasured, describe.measured (1, fiveHash)
    (by change (1, fiveHash) ∈ (worldAfter (beginsAfter [])).shared.measured
        rw [isMeasured]
        exact List.mem_singleton_self _)⟩

end Sample

end AgentRank.Benchmark
