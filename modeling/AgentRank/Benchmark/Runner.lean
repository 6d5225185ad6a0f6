import AgentRank.Benchmark.Metrics
import AgentRank.Transition.Clients

/-!
# The runner and the sessions it works in

This module models the half of `benchmark/runner.py` that moves a run and its missions:
`execute_started_suite` step by step, and the four operations that lock a run.

A session keeps the attributes of the objects it has read, and a commit does not expire
them.  The query of `BenchmarkRunRepository.get_for_update` locks the row, but it does not
ask for attributes that are already there to be read again.  So a session that holds a copy
of the run decides on that copy.  The triggers of the database decide on the stored row.
-/

namespace AgentRank.Benchmark

open Relational Store Transition

structure BenchmarkMissionRun where
  missionKey : String
  status : MissionRunStatus
  startedAt : Option Instant := none
  completedAt : Option Instant := none
  evaluation : Option MissionEvaluation := none
deriving DecidableEq

/-- A run with all the columns that the runner writes, and its missions in suite order. -/
structure SuiteRun extends BenchmarkRun where
  startedAt : Option Instant
  completedAt : Option Instant
  missionRuns : List BenchmarkMissionRun
deriving DecidableEq

instance : Keyed SuiteRun Uuid where
  key run := run.id

def runStatusValue : BenchmarkRunStatus → String
  | .pending => "PENDING"
  | .running => "RUNNING"
  | .completed => "COMPLETED"
  | .aborted => "ABORTED"

def missionStatusValue : MissionRunStatus → String
  | .pending => "PENDING"
  | .running => "RUNNING"
  | .succeeded => "SUCCEEDED"
  | .failed => "FAILED"
  | .abstained => "ABSTAINED"
  | .errored => "ERRORED"

def BenchmarkMissionRun.isTerminal (mission : BenchmarkMissionRun) : Bool :=
  mission.status ∈ terminalMissionStatuses

namespace SuiteRun

def isTerminal (run : SuiteRun) : Bool :=
  run.status = .completed || run.status = .aborted

def missionRun? (run : SuiteRun) (missionKey : String) : Option BenchmarkMissionRun :=
  run.missionRuns.find? fun mission => mission.missionKey = missionKey

/-- Write the columns of one mission. -/
def changeMission (run : SuiteRun) (missionKey : String)
    (change : BenchmarkMissionRun → BenchmarkMissionRun) : SuiteRun :=
  { run with
    missionRuns := run.missionRuns.map fun mission =>
      if mission.missionKey = missionKey then change mission else mission }

/-- The missions that never executed. -/
def unfinished (run : SuiteRun) : List BenchmarkMissionRun :=
  run.missionRuns.filter fun mission => !mission.isTerminal

end SuiteRun

/-- How a run is asked for: a run identifier is worth nothing to any other merchant. -/
structure RunAddress where
  runId : Uuid
  merchantId : Uuid
deriving DecidableEq

def SuiteRun.address (run : SuiteRun) : RunAddress where
  runId := run.id
  merchantId := run.merchantId

/-- The stored runs, every reset of a merchant's world with the run it was made for, and
every call of an executor. -/
structure RunStore where
  runs : Table SuiteRun
  resets : List (Uuid × Option Uuid) := []
  calls : List (Uuid × String) := []

namespace RunStore

def find? (store : RunStore) (address : RunAddress) : Option SuiteRun :=
  (store.runs.get? address.runId).filter fun run => run.merchantId = address.merchantId

/-- `BenchmarkRunRepository.active_run_id`. -/
def activeRunId (store : RunStore) (merchantId : Uuid) : Option Uuid :=
  (store.runs.rows.find? fun run =>
    run.merchantId = merchantId && run.status = .running).map fun run => run.id

def put (store : RunStore) (run : SuiteRun) : RunStore :=
  { store with runs := store.runs.set run }

/-- How often the world was reset on behalf of a run. -/
def resetsFor (store : RunStore) (runId : Uuid) : Nat :=
  store.resets.countP fun reset => reset.2 = some runId

/-- How often an executor was called for a run. -/
def callsFor (store : RunStore) (runId : Uuid) : Nat :=
  store.calls.countP fun call => call.1 = runId

end RunStore

def runResource : String := "benchmark_run"

def runConflict (reason detail : String) (run : SuiteRun) : Failure :=
  .conflict reason detail (some runResource) (some (toString run.id))

def notRunning (run : SuiteRun) : Failure :=
  runConflict "run_not_running"
    s!"benchmark run {run.id} is {(runStatusValue run.status).toLower} and records nothing" run

def alreadyFinished (run : SuiteRun) : Failure :=
  runConflict "run_already_finished"
    s!"benchmark run {run.id} is already {(runStatusValue run.status).toLower}" run

def runIncomplete (run : SuiteRun) : Failure :=
  runConflict "run_incomplete"
    s!"benchmark run {run.id} has {run.unfinished.length} missions that never executed" run

def missionAlreadyRecorded (run : SuiteRun) (missionKey : String) : Failure :=
  runConflict "mission_already_recorded"
    s!"mission {missionKey} in run {run.id} has already been executed" run

def runTransitions : List (BenchmarkRunStatus × BenchmarkRunStatus) :=
  [(.pending, .pending), (.pending, .running), (.running, .running), (.running, .completed),
    (.running, .aborted)]

def missionTransitions : List (MissionRunStatus × MissionRunStatus) :=
  [(.pending, .pending), (.pending, .running), (.running, .running), (.running, .succeeded),
    (.running, .failed), (.running, .abstained), (.running, .errored)]

/-- `benchmark_run_guard`. -/
def runGuard (old new : SuiteRun) : Option String :=
  if old.startedAt.isSome ∧ new.startedAt ≠ old.startedAt then
    some "a benchmark run start time cannot be moved"
  else if old.isTerminal then
    some s!"a {(runStatusValue old.status).toLower} benchmark run cannot be changed"
  else if (old.status, new.status) ∉ runTransitions then
    some s!"benchmark run status cannot go from {runStatusValue old.status} to {runStatusValue new.status}"
  else none

/-- `benchmark_mission_run_guard`, on a mission of the given run. -/
def missionGuard (run : SuiteRun) (old new : BenchmarkMissionRun) : Option String :=
  if old.startedAt.isSome ∧ new.startedAt ≠ old.startedAt then
    some "a benchmark mission run start time cannot be moved"
  else if run.isTerminal then
    some "a mission result cannot be changed once its run has finished"
  else if old.isTerminal then
    some "a recorded benchmark mission result cannot be changed"
  else if (old.status, new.status) ∉ missionTransitions then
    some s!"benchmark mission run status cannot go from {missionStatusValue old.status} to {missionStatusValue new.status}"
  else none

def writeRun (stored : SuiteRun) (change : SuiteRun → SuiteRun) : Except Failure SuiteRun :=
  match runGuard stored (change stored) with
  | some message => .error (.integrityError message)
  | none => .ok (change stored)

def writeMission (stored : SuiteRun) (missionKey : String)
    (change : BenchmarkMissionRun → BenchmarkMissionRun) : Except Failure SuiteRun :=
  match stored.missionRun? missionKey with
  | none => .error (.notFound "benchmark_mission_run" missionKey)
  | some mission =>
      match missionGuard stored mission (change mission) with
      | some message => .error (.integrityError message)
      | none => .ok (stored.changeMission missionKey change)

/-! ## Operations under the lock -/

def beginMission (now : Instant) (mission : BenchmarkMissionRun) : BenchmarkMissionRun :=
  { mission with status := .running, startedAt := some now }

/-- `_apply`. -/
def applyEvaluation (evaluation : MissionEvaluation) (now : Instant)
    (mission : BenchmarkMissionRun) : BenchmarkMissionRun :=
  { mission with
    status := evaluation.status, evaluation := some evaluation, completedAt := some now }

def closeRunAs (status : BenchmarkRunStatus) (now : Instant) (run : SuiteRun) : SuiteRun :=
  { run with status := status, completedAt := some now }

/-- What an operation left behind: the session's copy, and the stored row. -/
structure Written where
  held : SuiteRun
  stored : SuiteRun

section Operations

variable (run stored : SuiteRun) (now : Instant)

def requireRunning : Except Failure Unit :=
  if run.status = .running then .ok () else .error (notRunning run)

/-- The mission that an operation is about, when it has no result yet. -/
def openMission (missionKey : String) : Except Failure BenchmarkMissionRun :=
  match run.missionRun? missionKey with
  | none => .error (.notFound "benchmark_mission" missionKey)
  | some mission =>
      if mission.isTerminal then .error (missionAlreadyRecorded run missionKey) else .ok mission

/-- A mission that is still pending is marked as running. -/
def beginPending (missionKey : String) (mission : BenchmarkMissionRun) :
    Except Failure Written :=
  if mission.status = .pending then do
    let changed ← writeMission stored missionKey (beginMission now)
    return { held := run.changeMission missionKey (beginMission now), stored := changed }
  else return { held := run, stored := stored }

def startMission (missionKey : String) : Except Failure Written := do
  requireRunning run
  let mission ← openMission run missionKey
  beginPending run stored now missionKey mission

def recordResult (missionKey : String) (evaluation : MissionEvaluation) :
    Except Failure Written := do
  requireRunning run
  let mission ← openMission run missionKey
  let begun ← beginPending run stored now missionKey mission
  let changed ← writeMission begun.stored missionKey (applyEvaluation evaluation now)
  return {
    held := begun.held.changeMission missionKey (applyEvaluation evaluation now)
    stored := changed }

/-- `_finish`. -/
def finishRun (status : BenchmarkRunStatus) : Except Failure Written :=
  if run.isTerminal then .error (alreadyFinished run)
  else do
    let changed ← writeRun stored (closeRunAs status now)
    return { held := closeRunAs status now run, stored := changed }

def completeRun : Except Failure Written :=
  if run.unfinished ≠ [] then .error (runIncomplete run)
  else finishRun run stored now .completed

def abortRun : Except Failure Written :=
  finishRun run stored now .aborted

end Operations

/-- The operations that lock a run. -/
inductive RunOperation
  | startMission (missionKey : String)
  | record (missionKey : String) (evaluation : MissionEvaluation)
  | complete
  | abort
deriving DecidableEq

/-- An operation on the session's copy and the stored row. -/
def RunOperation.work (operation : RunOperation) (run stored : SuiteRun) (now : Instant) :
    Except Failure Written :=
  match operation with
  | .startMission missionKey => Benchmark.startMission run stored now missionKey
  | .record missionKey evaluation => recordResult run stored now missionKey evaluation
  | .complete => completeRun run stored now
  | .abort => abortRun run stored now

/-- One operation in one transaction.  `_locked_run` finds the row, and gives the copy that
the session already holds. -/
def perform (operation : RunOperation) (address : RunAddress) (held : Option SuiteRun)
    (now : Instant) (store : RunStore) : Except Failure (SuiteRun × RunStore) :=
  match store.find? address with
  | none => .error (.notFound runResource (toString address.runId))
  | some stored =>
      match operation.work (held.getD stored) stored now with
      | .error failure => .error failure
      | .ok written => .ok (written.held, store.put written.stored)

/-- `BenchmarkEnvironmentService.prepare`, past the content of the fixture: the world of a
merchant is reset unless a run other than the named one executes against it. -/
def prepareWorld (merchantId : Uuid) (forRun : Option Uuid) (store : RunStore) :
    Except Failure RunStore :=
  match store.activeRunId merchantId with
  | none => .ok { store with resets := store.resets ++ [(merchantId, forRun)] }
  | some active =>
      if some active = forRun then
        .ok { store with resets := store.resets ++ [(merchantId, forRun)] }
      else
        .error
          (.conflict "run_already_active"
            s!"benchmark run {active} is executing against this merchant and its world cannot be reset until that run is completed or aborted"
            (some "benchmark_environment") (some (toString active)))

/-- A run as `start_run` commits it: running, with every mission of its suite pending. -/
def createdRun (address : RunAddress) (missionKeys : List String) (now : Instant) :
    SuiteRun where
  id := address.runId
  merchantId := address.merchantId
  status := .running
  startedAt := some now
  completedAt := none
  missionRuns := missionKeys.map fun missionKey => { missionKey := missionKey, status := .pending }

/-- `BenchmarkRunService.start_run`. -/
def startRun (address : RunAddress) (missionKeys : List String) (now : Instant)
    (store : RunStore) : Except Failure (SuiteRun × RunStore) :=
  match store.activeRunId address.merchantId with
  | some active =>
      .error
        (.conflict "run_already_active"
          s!"benchmark run {active} is already executing against this merchant and must be completed or aborted before another starts"
          (some runResource) (some (toString active)))
  | none =>
      match store.runs.insert? (createdRun address missionKeys now) with
      | none => .error (.integrityError "pk_benchmark_run")
      | some runs => .ok (createdRun address missionKeys now, { store with runs := runs })

/-- What a step of a suite may raise besides what the runner itself refuses: the capacity
governance halts it, or something else fails. -/
inductive Raised
  | halted (failureCode : String)
  | failed (failure : Failure)

/-- What the surroundings of a step answer. -/
structure RunInput where
  now : Instant
  raises : Option Raised := none
  evaluation : MissionEvaluation

/-- Where the loop over the missions stands. -/
inductive SuiteStep
  | admitting (remaining : List String)
  | preparing (missionKey : String) (rest : List String)
  | starting (missionKey : String) (rest : List String)
  | calling (missionKey : String) (rest : List String)
  | recording (missionKey : String) (rest : List String)
  | completing

inductive SuiteOutcome
  | continues (run : SuiteRun) (step : SuiteStep)
  | returned (run : SuiteRun)
  | raised (raised : Raised)

/-- The start of `execute_started_suite`: the run is read, has to be running, and its
missions are taken one by one. -/
def loadSuite (input : RunInput) (address : RunAddress) (held : Option SuiteRun)
    (store : RunStore) : SuiteOutcome :=
  match store.find? address with
  | none => .raised (.failed (.notFound runResource (toString address.runId)))
  | some stored =>
      let run := held.getD stored
      match requireRunning run, input.raises with
      | .error failure, _ => .raised (.failed failure)
      | .ok _, some raised => .raised raised
      | .ok _, none =>
          .continues run (.admitting (run.missionRuns.map BenchmarkMissionRun.missionKey))

/-- An operation of the suite, and where it leads. -/
def suiteOperation (operation : RunOperation) (now : Instant) (run : SuiteRun)
    (store : RunStore) (next : SuiteRun → SuiteOutcome) : RunStore × SuiteOutcome :=
  match perform operation run.address (some run) now store with
  | .error failure => (store, .raised (.failed failure))
  | .ok (held, final) => (final, next held)

/-- One step of `execute_started_suite`, from one commit to the next. -/
def SuiteStep.act (step : SuiteStep) (input : RunInput) (run : SuiteRun) (store : RunStore) :
    RunStore × SuiteOutcome :=
  match step with
  | .admitting [] => (store, .continues run .completing)
  | .admitting (missionKey :: rest) =>
      match input.raises with
      | some raised => (store, .raised raised)
      | none => (store, .continues run (.preparing missionKey rest))
  | .preparing missionKey rest =>
      match input.raises with
      | some raised => (store, .raised raised)
      | none =>
          match prepareWorld run.merchantId (some run.id) store with
          | .error failure => (store, .raised (.failed failure))
          | .ok final => (final, .continues run (.starting missionKey rest))
  | .starting missionKey rest =>
      suiteOperation (.startMission missionKey) input.now run store fun held =>
        .continues held (.calling missionKey rest)
  | .calling missionKey rest =>
      let final := { store with calls := store.calls ++ [(run.id, missionKey)] }
      match input.raises with
      | some raised => (final, .raised raised)
      | none => (final, .continues run (.recording missionKey rest))
  | .recording missionKey rest =>
      match input.raises with
      | some raised => (store, .raised raised)
      | none =>
          suiteOperation (.record missionKey input.evaluation) input.now run store fun held =>
            .continues held (.admitting rest)
  | .completing => suiteOperation .complete input.now run store .returned

/-- What a session was opened for. -/
inductive RunWork
  | suite
  | operation (operation : RunOperation)

/-- A session may have read the run before it sets to work. -/
structure RunCall where
  work : RunWork
  address : RunAddress
  retains : Bool

inductive RunStage
  | retaining (work : RunWork) (address : RunAddress)
  | working (work : RunWork) (address : RunAddress) (held : Option SuiteRun)
  | executing (run : SuiteRun) (step : SuiteStep)

def RunCall.enter (call : RunCall) : RunStage :=
  if call.retains then .retaining call.work call.address
  else .working call.work call.address none

def SuiteOutcome.stage : SuiteOutcome → Option RunStage
  | .continues run step => some (.executing run step)
  | .returned _ => none
  | .raised _ => none

def RunStage.act (stage : RunStage) (input : RunInput) (store : RunStore) :
    RunStore × Option RunStage :=
  match stage with
  | .retaining work address =>
      (store, (store.find? address).map fun run => .working work address (some run))
  | .working .suite address held => (store, (loadSuite input address held store).stage)
  | .working (.operation operation) address held =>
      match perform operation address held input.now store with
      | .error _ => (store, none)
      | .ok (_, final) => (final, none)
  | .executing run step =>
      let (final, outcome) := step.act input run store
      (final, outcome.stage)

/-- Another session starts a run. -/
structure RunStart where
  address : RunAddress
  missionKeys : List String
  now : Instant

/-- Any number of sessions over one store. -/
def runSystem : System RunStore RunCall RunStage RunInput RunStart where
  enter := RunCall.enter
  act input stage store := stage.act input store
  outside start store :=
    match startRun start.address start.missionKeys start.now store with
    | .error _ => store
    | .ok (_, final) => final

abbrev RunWorld := World RunStore RunStage

abbrev RunEvent := Event RunCall RunInput RunStart

end AgentRank.Benchmark
