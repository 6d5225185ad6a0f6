import AgentRank.Benchmark.Launch

/-!
# Dispatchers, merchants and operators

This module models `execute_next_launch` of `benchmark/dispatch.py` from one commit to the
next, beside the requests and withdrawals of the merchants and the commands of the
operators: `cancel`, `abort`, `settle`, and a suite that no launch asked for.

A dispatcher locks a launch when it claims it, and lets go of the lock before the run
exists.  So several dispatchers may be at work on one launch.
-/

namespace AgentRank.Benchmark

open Constraints Relational Store Transition

/-- What somebody asks of the system. -/
inductive LaunchCall
  | request (request : LaunchRequest)
  | withdraw (merchantId launchId : Uuid)
  | cancel (launchId : Uuid)
  | abort (address : RunAddress)
  | settle (address : RunAddress)
  | operate (merchantId : Uuid)
  | dispatch (worker : Worker)

/-- What the surroundings of a step answer: the clock of the process and a fresh identifier,
what a plan reads of other tables, the missions of the suite, why a plan is refused, whether
capacity is short before the run exists, and what else is raised. -/
structure LaunchInput extends RunInput where
  newId : Uuid
  facts : PlanFacts
  missionKeys : List String
  refused : Option String := none
  waits : Bool := false

/-- Where a caller stands between two transactions.  A suite runs for a launch, or for an
operator. -/
inductive LaunchStage
  | requesting (request : LaunchRequest)
  | withdrawing (merchantId launchId : Uuid)
  | cancelling (launchId : Uuid)
  | inspecting (address : RunAddress) (aborts : Bool)
  | aborting (address : RunAddress) (held : Option SuiteRun)
  | settlingFor (runId : Uuid) (held : Option SuiteRun)
  | claiming (worker : Worker)
  | measuring (launchId merchantId : Uuid)
  | preparing (launchId : Option Uuid) (merchantId : Uuid)
  | starting (launchId : Option Uuid) (merchantId : Uuid)
  | binding (launchId : Uuid) (run : SuiteRun)
  | closing (launchId : Uuid) (address : RunAddress) (held : Option SuiteRun)
      (halted : Option String)
  | loading (launch : Option EvaluationLaunch) (run : SuiteRun)
  | executing (launch : Option EvaluationLaunch) (run : SuiteRun) (step : SuiteStep)
  | halting (launchId : Uuid) (failureCode : String)
  | failing (launch : EvaluationLaunch) (failureCode : String)
  | settling (launch : EvaluationLaunch)

def LaunchCall.enter : LaunchCall → LaunchStage
  | .request asked => .requesting asked
  | .withdraw merchantId launchId => .withdrawing merchantId launchId
  | .cancel launchId => .cancelling launchId
  | .abort address => .inspecting address true
  | .settle address => .inspecting address false
  | .operate merchantId => .preparing none merchantId
  | .dispatch worker => .claiming worker

/-- A transaction that is the last one of its call. -/
def lastly (outcome : Except Failure LaunchStore) (store : LaunchStore) :
    LaunchStore × Option LaunchStage :=
  match outcome with
  | .error _ => (store, none)
  | .ok final => (final, none)

/-- What follows a step of a suite.  A dispatcher that was halted closes its run before it
settles its launch; any other exception ends it. -/
def afterSuite (launch : Option EvaluationLaunch) (address : RunAddress) :
    SuiteOutcome → Option LaunchStage
  | .continues run step => some (.executing launch run step)
  | .returned _ => launch.map LaunchStage.settling
  | .raised (.halted failureCode) =>
      launch.map fun launch => .closing launch.id address none (some failureCode)
  | .raised (.failed _) => none

/-- The capacity governance halts a step. -/
def Raised.code? : Raised → Option String
  | .halted failureCode => some failureCode
  | .failed _ => none

/-- `bind_run` and what the dispatcher makes of its refusal.  A halt rolls back, so the
session's copy of the run is gone; a conflict does not. -/
def bindingStep (input : LaunchInput) (launchId : Uuid) (run : SuiteRun) (store : LaunchStore) :
    LaunchStore × Option LaunchStage :=
  match bindRun launchId run.id (input.raises.bind Raised.code?) store with
  | .ok (launch, final) => (final, some (.loading (some launch) run))
  | .error (.halted failureCode) =>
      (store, some (.closing launchId run.address none (some failureCode)))
  | .error (.failed (.conflict _ _ _ _)) =>
      (store, some (.closing launchId run.address (some run) none))
  | .error (.failed _) => (store, none)

/-- `start_run` for a launch, or for an operator. -/
def startingStep (input : LaunchInput) (launchId : Option Uuid) (merchantId : Uuid)
    (store : LaunchStore) : LaunchStore × Option LaunchStage :=
  match startRun ⟨input.newId, merchantId⟩ input.missionKeys input.now store.runs with
  | .error _ => (store, none)
  | .ok (run, runs) =>
      match launchId with
      | none => ({ store with runs := runs }, some (.loading none run))
      | some launchId =>
          ({ store with runs := runs, dispatched := store.dispatched ++ [(launchId, run.id)] },
            some (.binding launchId run))

/-- What a stage does, and where it leads. -/
def LaunchStage.act (stage : LaunchStage) (input : LaunchInput) (store : LaunchStore) :
    LaunchStore × Option LaunchStage :=
  match stage with
  | .requesting request =>
      lastly ((requestLaunch input.newId request input.facts store).map Prod.snd) store
  | .withdrawing merchantId launchId => lastly (withdrawLaunch merchantId launchId store) store
  | .cancelling launchId => lastly (cancelQueued launchId store) store
  | .inspecting address aborts =>
      match store.runs.find? address with
      | none => (store, none)
      | some run =>
          if aborts then (store, some (.aborting address (some run)))
          else if run.isTerminal then (store, some (.settlingFor run.id (some run)))
          else (store, none)
  | .aborting address held =>
      match perform .abort address held input.now store.runs with
      | .error _ => (store, none)
      | .ok (run, runs) =>
          ({ store with runs := runs }, some (.settlingFor address.runId (some run)))
  | .settlingFor runId held => lastly (settleForTerminalRun runId held store) store
  | .claiming worker =>
      match claimNext worker store, input.refused with
      | none, _ => (store, none)
      | some launch, some failureCode =>
          lastly (settleFailed launch.id none failureCode store) store
      | some launch, none => (store, some (.measuring launch.id launch.merchantId))
  | .measuring launchId merchantId =>
      match input.refused with
      | some failureCode => lastly (settleFailed launchId none failureCode store) store
      | none =>
          if input.waits then (store, none)
          else (store, some (.preparing (some launchId) merchantId))
  | .preparing launchId merchantId =>
      match prepareWorld merchantId none store.runs with
      | .error _ => (store, none)
      | .ok runs => ({ store with runs := runs }, some (.starting launchId merchantId))
  | .starting launchId merchantId => startingStep input launchId merchantId store
  | .binding launchId run => bindingStep input launchId run store
  | .closing launchId address held halted =>
      match perform .abort address held input.now store.runs with
      | .error _ => (store, none)
      | .ok (_, runs) => ({ store with runs := runs }, halted.map (.halting launchId))
  | .loading launch run =>
      (store, afterSuite launch run.address
        (loadSuite input.toRunInput run.address (some run) store.runs))
  | .executing launch run step =>
      let (runs, outcome) := step.act input.toRunInput run store.runs
      ({ store with runs := runs }, afterSuite launch run.address outcome)
  | .halting launchId failureCode =>
      match store.launches.get? launchId with
      | none => (store, none)
      | some launch =>
          if launch.status = .queued then (store, none)
          else (store, some (.failing launch failureCode))
  | .failing launch failureCode =>
      lastly (settleFailed launch.id (some launch) failureCode store) store
  | .settling launch => lastly (settleCompleted launch.id (some launch) store) store

/-- The clock of the database goes on. -/
structure ClockTick where
  microseconds : Nat

/-- Any number of merchants, operators and dispatchers over one store. -/
def launchSystem : System LaunchStore LaunchCall LaunchStage LaunchInput ClockTick where
  enter := LaunchCall.enter
  act input stage store := stage.act input store
  outside tick store := { store with clock := store.clock + tick.microseconds }

abbrev LaunchWorld := World LaunchStore LaunchStage

abbrev LaunchEvent := Event LaunchCall LaunchInput ClockTick

/-- The store before anybody has asked for an evaluation. -/
def LaunchStore.opening (runs : RunStore) (clock : Instant) : LaunchStore where
  launches := Table.empty
  runs := runs
  clock := clock

end AgentRank.Benchmark
