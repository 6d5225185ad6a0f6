import AgentRank.Benchmark.Dispatch
import AgentRank.Benchmark.LaunchRecords

/-!
# Launches and runs under every order of steps

The records of launches and runs agree in every reachable state.  The table sees to that
whatever is written.  That every run of a dispatcher is bound or aborted rests on the
sessions: nobody else closes the run that a session has created, so an abort of a run that
could not be bound ends as it should.
-/

namespace AgentRank.Benchmark

open Relational Store Transition

/-- Every run stays under its address, a finished run stays as it is, and a run that is not
the session's own stays in its status or is aborted. -/
def RunsMove (own : Option Uuid) (before after : RunStore) : Prop :=
  ∀ run ∈ before.runs, ∃ next ∈ after.runs, next.address = run.address ∧
    (run.isTerminal = true → next = run) ∧
      (own ≠ some run.id → next.status = run.status ∨ next.status = .aborted)

variable {own : Option Uuid} {before after : RunStore}

theorem RunsMove.of_same (same : after.runs = before.runs) : RunsMove own before after := by
  intro run member
  exact ⟨run, same ▸ member, rfl, fun _ => rfl, fun _ => Or.inl rfl⟩

variable {run : SuiteRun}

theorem RunsMove.insert {runs : Table SuiteRun} (inserted : before.runs.insert? run = some runs)
    (same : after.runs = runs) :
    RunsMove own before after := by
  intro other member
  exact ⟨other, same ▸ (Table.mem_insert?_iff inserted).mpr (Or.inl member), rfl,
    fun _ => rfl, fun _ => Or.inl rfl⟩

variable {now : Instant}

/-- An abort that succeeds leaves an aborted row. -/
theorem abortRun_eq_ok {stored : SuiteRun} {written : Written}
    (aborted : abortRun run stored now = .ok written) : written.stored.status = .aborted := by
  unfold abortRun finishRun at aborted
  split at aborted
  · cases aborted
  · rcases except_bind_eq_ok_iff.mp aborted with ⟨changed, wrote, result⟩
    cases result
    unfold writeRun at wrote
    split at wrote <;> cases wrote
    rfl

variable {address : RunAddress}

/-- An operation moves the run under its address, and an abort moves it nowhere else. -/
theorem RunsMove.perform {operation : RunOperation} {held : Option SuiteRun}
    (performed : Benchmark.perform operation address held now before = .ok (run, after))
    (isOwn : operation = .abort ∨ own = some address.runId) : RunsMove own before after := by
  rcases perform_eq_ok performed with ⟨stored, written, found, worked, sameAddress, _, afterEq⟩
  rcases find?_eq_some_iff.mp found with ⟨storedMem, storedAddress⟩
  have sameId : stored.id = written.stored.id :=
    congrArg RunAddress.runId (storedAddress.trans sameAddress.symm)
  have applied : (RunEffect.performs operation address held).apply now before = after := by
    simp only [RunEffect.apply, performed]
  intro other otherMem
  by_cases isStored : other.id = stored.id
  · have sameRow : other = stored := Table.eq_of_key_eq otherMem storedMem isStored
    have writtenMem : written.stored ∈ after.runs := by
      rw [afterEq]
      exact (Table.mem_set_iff storedMem sameId).mpr (Or.inl rfl)
    rw [sameRow]
    refine ⟨written.stored, writtenMem, sameAddress.trans storedAddress.symm, ?_, ?_⟩
    · intro terminal
      have kept := apply_keeps storedMem terminal (.performs operation address held) now
      rw [applied] at kept
      exact Table.eq_of_key_eq writtenMem kept sameId.symm
    · intro notOwn
      rcases isOwn with rfl | isOwn
      · exact Or.inr (abortRun_eq_ok worked)
      · rw [isOwn, ← storedAddress] at notOwn
        exact absurd rfl notOwn
  · have otherId : other.id ≠ written.stored.id := sameId ▸ isStored
    refine ⟨other, ?_, rfl, fun _ => rfl, fun _ => Or.inl rfl⟩
    rw [afterEq]
    exact Table.mem_set_of_ne otherMem otherId

/-- A step of a suite moves its own run. -/
theorem RunsMove.suite (step : SuiteStep) (input : RunInput) (run : SuiteRun) :
    RunsMove (some run.id) before (step.act input run before).1 := by
  rcases suiteStep_runs step input run before with same | ⟨operation, held, result, performed⟩
  · exact .of_same same
  · exact .perform performed (Or.inr rfl)

theorem RunsMove.find? (moves : RunsMove own before after)
    (found : (before.find? address).isSome = true) : (after.find? address).isSome = true := by
  rcases Option.isSome_iff_exists.mp found with ⟨run, runEq⟩
  rcases find?_eq_some_iff.mp runEq with ⟨member, sameAddress⟩
  rcases moves run member with ⟨next, nextMem, nextAddress, _⟩
  exact Option.isSome_iff_exists.mpr
    ⟨next, find?_eq_some_iff.mpr ⟨nextMem, nextAddress.trans sameAddress⟩⟩

variable {merchantId : Uuid}

theorem RunsMove.namesRun (moves : RunsMove own before after) {runId : Option Uuid}
    (named : Benchmark.namesRun before merchantId runId = true) :
    Benchmark.namesRun after merchantId runId = true := by
  cases runId with
  | none => rfl
  | some runId => exact moves.find? named

variable {runs : RunStore} {runId : Uuid}

theorem statusOf_eq_some_iff {status : BenchmarkRunStatus} :
    runs.statusOf (some runId) = some status ↔
      ∃ run ∈ runs.runs, run.id = runId ∧ run.status = status := by
  simp only [RunStore.statusOf, Option.bind_some, Option.map_eq_some_iff, Table.get?_eq_some_iff,
    and_assoc]
  rfl

/-- A finished run is found finished again. -/
theorem RunsMove.statusOf (moves : RunsMove own before after) {runId : Option Uuid}
    {status : BenchmarkRunStatus} (found : before.statusOf runId = some status)
    (terminal : status = .completed ∨ status = .aborted) :
    after.statusOf runId = some status := by
  cases runId with
  | none => cases found
  | some runId =>
      rcases statusOf_eq_some_iff.mp found with ⟨run, member, sameId, rfl⟩
      rcases moves run member with ⟨next, nextMem, _, kept, _⟩
      have same := kept (by rcases terminal with isStatus | isStatus <;>
        simp [SuiteRun.isTerminal, isStatus])
      exact statusOf_eq_some_iff.mpr ⟨next, nextMem, by rw [same]; exact sameId, by rw [same]⟩

variable {launch : EvaluationLaunch}

theorem RunsMove.settlementGuard (moves : RunsMove own before after)
    (settled : Benchmark.settlementGuard before launch = none) :
    Benchmark.settlementGuard after launch = none := by
  unfold Benchmark.settlementGuard at settled ⊢
  split at settled
  · cases settled
  · next completes =>
      split at settled
      · cases settled
      · next fails =>
          rw [if_neg, if_neg]
          · rintro ⟨isFailed, named, notAborted⟩
            apply fails
            refine ⟨isFailed, named, fun found => notAborted (moves.statusOf found (Or.inr rfl))⟩
          · rintro ⟨isCompleted, notCompleted⟩
            apply completes
            exact ⟨isCompleted, fun found => notCompleted (moves.statusOf found (Or.inl rfl))⟩

/-- Runs that move under unchanged launches keep the records in agreement. -/
theorem RecordsAgree.move {store final : LaunchStore} (agree : RecordsAgree store)
    (sameLaunches : final.launches = store.launches) (later : store.clock ≤ final.clock)
    (moves : RunsMove own store.runs final.runs) : RecordsAgree final := by
  constructor <;> rw [sameLaunches]
  · exact agree.onePending
  · exact agree.oneLaunch
  · exact agree.oneRequest
  · exact fun launch member => moves.settlementGuard (agree.settled launch member)
  · exact agree.checked
  · intro launch member
    exact ⟨moves.namesRun (agree.named launch member).1,
      moves.namesRun (agree.named launch member).2⟩
  · exact fun launch member => (agree.timed launch member).trans later

/-! ## What a stage does -/

/-- The run that a session has created. -/
def LaunchStage.ownRun : LaunchStage → Option Uuid
  | .binding _ run | .loading _ run | .executing _ run _ => some run.id
  | .closing _ address _ _ => some address.runId
  | _ => none

/-- What a step of a session does to the store. -/
structure StageEffect (own : Option Uuid) (store final : LaunchStore) : Prop where
  launches : LaunchStep store final
  runs : RunsMove own store.runs final.runs
  names : ∀ launch ∈ final.launches, ∀ runId, launch.runId = some runId →
    (∃ earlier ∈ store.launches, earlier.runId = some runId) ∨ own = some runId
  clock : store.clock ≤ final.clock
  agree : RecordsAgree store → RecordsAgree final

variable {store final : LaunchStore}

variable {launchId : Uuid}

theorem StageEffect.write {binds : Option Uuid} (written : LaunchWrite launchId binds store final)
    (isOwn : binds = none ∨ binds = own) :
    StageEffect own store final where
  launches := written.step
  runs := .of_same (by rw [written.runs.1])
  names launch member runId named := by
    rcases written.names member named with earlier | bound
    · exact Or.inl earlier
    · rcases isOwn with unbound | isOwn
      · rw [unbound] at bound
        cases bound
      · exact Or.inr (isOwn.symm.trans bound)
  clock := le_of_eq written.runs.2.1.symm
  agree agrees := agrees.write written

theorem StageEffect.move (sameLaunches : final.launches = store.launches)
    (later : store.clock ≤ final.clock) (moves : RunsMove own store.runs final.runs) :
    StageEffect own store final where
  launches := .of_same sameLaunches
  runs := moves
  names launch member _ named := Or.inl ⟨launch, sameLaunches ▸ member, named⟩
  clock := later
  agree agrees := agrees.move sameLaunches later moves

/-- What a step of a session amounts to: it writes a launch, or it moves the runs, or it starts a
run and records it for the launch that it goes on to bind. -/
inductive StageMove (own : Option Uuid) (store : LaunchStore) :
    LaunchStore × Option LaunchStage → Prop
  | writes {launchId : Uuid} {binds : Option Uuid} {final : LaunchStore}
      {next : Option LaunchStage} (written : LaunchWrite launchId binds store final)
      (isOwn : binds = none ∨ binds = own) : StageMove own store (final, next)
  | moves {runs : RunStore} {next : Option LaunchStage}
      (moved : RunsMove own store.runs runs) :
      StageMove own store ({ store with runs := runs }, next)
  | starts {launchId : Uuid} {run : SuiteRun} {runs : RunStore}
      (moved : RunsMove own store.runs runs) :
      StageMove own store
        ({ store with runs := runs, dispatched := store.dispatched ++ [(launchId, run.id)] },
          some (.binding launchId run))

theorem StageMove.stays {next : Option LaunchStage} : StageMove own store (store, next) :=
  .moves (.of_same rfl)

/-- A last transaction writes what it commits. -/
theorem StageMove.lastly {outcome : Except Failure LaunchStore}
    (commits : ∀ final, outcome = .ok final → ∃ launchId, LaunchWrite launchId none store final) :
    StageMove own store (Benchmark.lastly outcome store) := by
  cases outcome with
  | error failure => exact .stays
  | ok final =>
      rcases commits final rfl with ⟨launchId, written⟩
      exact .writes written (Or.inl rfl)

variable {missionKeys : List String}

theorem startRun_moves (started : startRun address missionKeys now store.runs = .ok (run, runs)) :
    RunsMove own store.runs runs := by
  rcases startRun_eq_ok started with ⟨_, _, rows, inserted, runsEq⟩
  exact .insert inserted (by rw [runsEq])

/-- What every stage amounts to. -/
theorem act_move (stage : LaunchStage) (input : LaunchInput) (store : LaunchStore) :
    StageMove stage.ownRun store (stage.act input store) := by
  cases stage with
  | requesting request =>
      apply StageMove.lastly
      intro final committed
      cases requested : requestLaunch input.newId request input.facts store with
      | error failure => simp [requested, Except.map] at committed
      | ok result =>
          simp only [requested, Except.map, Except.ok.injEq] at committed
          rw [← committed]
          exact ⟨_, requestLaunch_write requested⟩
  | withdrawing merchantId launchId =>
      exact .lastly fun final committed => ⟨_, withdrawLaunch_write committed⟩
  | cancelling launchId =>
      exact .lastly fun final committed => ⟨_, cancelQueued_write committed⟩
  | inspecting address aborts =>
      simp only [LaunchStage.act]
      split
      · exact .stays
      · split
        · exact .stays
        · split <;> exact .stays
  | aborting address held =>
      simp only [LaunchStage.act]
      split
      · exact .stays
      · next performed => exact .moves (.perform performed (Or.inl rfl))
  | settlingFor runId held =>
      apply StageMove.lastly
      intro final committed
      rcases settleForTerminalRun_write committed with rfl | ⟨_, _, _, written⟩
      · exact ⟨runId, .kept⟩
      · exact ⟨_, written⟩
  | claiming worker =>
      simp only [LaunchStage.act]
      split
      · exact .stays
      · exact .lastly fun final committed => ⟨_, settleFailed_write committed⟩
      · exact .stays
  | measuring launchId merchantId =>
      simp only [LaunchStage.act]
      split
      · exact .lastly fun final committed => ⟨_, settleFailed_write committed⟩
      · split <;> exact .stays
  | preparing launchId merchantId =>
      simp only [LaunchStage.act]
      split
      · exact .stays
      · next prepared => exact .moves (.of_same (by rw [(prepareWorld_eq_ok prepared).2]))
  | starting launchId merchantId =>
      simp only [LaunchStage.act, startingStep]
      split
      · exact .stays
      · next started =>
          cases launchId with
          | none => exact .moves (startRun_moves started)
          | some launchId => exact .starts (startRun_moves started)
  | binding launchId run =>
      simp only [LaunchStage.act, bindingStep]
      split
      · next bound => exact .writes (bindRun_write bound) (Or.inr rfl)
      · exact .stays
      · exact .stays
      · exact .stays
  | closing launchId address held halted =>
      simp only [LaunchStage.act]
      split
      · exact .stays
      · next performed => exact .moves (.perform performed (Or.inl rfl))
  | loading launch run => exact .stays
  | executing launch run step => exact .moves (.suite step input.toRunInput run)
  | halting launchId failureCode =>
      simp only [LaunchStage.act]
      split
      · exact .stays
      · split <;> exact .stays
  | failing launch failureCode =>
      exact .lastly fun final committed => ⟨_, settleFailed_write committed⟩
  | settling launch => exact .lastly fun final committed => ⟨_, settleCompleted_write committed⟩

/-- The effect of every stage. -/
theorem act_effect (stage : LaunchStage) (input : LaunchInput) (store : LaunchStore) :
    StageEffect stage.ownRun store (stage.act input store).1 := by
  have move := act_move stage input store
  generalize stage.act input store = result at move ⊢
  cases move with
  | writes written isOwn => exact .write written isOwn
  | moves moved | starts moved => exact .move rfl le_rfl moved

/-! ## What a session relies on -/

/-- The run is running, or somebody else has aborted it. -/
def OpenRun (runs : RunStore) (address : RunAddress) : Prop :=
  ∃ row ∈ runs.runs, row.address = address ∧ (row.status = .running ∨ row.status = .aborted)

/-- The launch is one of the merchant's. -/
def Awaits (store : LaunchStore) (launchId merchantId : Uuid) : Prop :=
  ∃ launch ∈ store.launches, launch.id = launchId ∧ launch.merchantId = merchantId

/-- The launch has left the queue. -/
def LeftQueue (store : LaunchStore) (launchId : Uuid) : Prop :=
  ∃ launch ∈ store.launches, launch.id = launchId ∧ launch.status ≠ .queued

/-- The launch and the run that was created for it can be bound. -/
structure Bindable (store : LaunchStore) (launchId : Uuid) (run : SuiteRun) : Prop where
  awaited : ∃ launch ∈ store.launches, launch.id = launchId ∧
    launch.merchantId = run.merchantId ∧ launch.baselineRunId ≠ some run.id
  unnamed : ∀ launch ∈ store.launches, launch.runId ≠ some run.id
  isOpen : OpenRun store.runs run.address

def LaunchStage.Relies (store : LaunchStore) : LaunchStage → Prop
  | .measuring launchId merchantId => Awaits store launchId merchantId
  | .preparing (some launchId) merchantId => Awaits store launchId merchantId
  | .starting (some launchId) merchantId => Awaits store launchId merchantId
  | .binding launchId run => Bindable store launchId run ∧ run.status = .running
  | .closing _ address held _ => OpenRun store.runs address ∧
      ∀ copy, held = some copy → copy.status = .running
  | .loading launch run | .executing launch run _ => OpenRun store.runs run.address ∧
      ∀ bound, launch = some bound → LeftQueue store bound.id
  | .failing launch _ | .settling launch => LeftQueue store launch.id
  | _ => True

/-- No two sessions have created one run. -/
def launchDiscipline : System.Discipline LaunchStore LaunchStage where
  shared := RecordsAgree
  relies store stage := stage.Relies store
  apart first second := ∀ runId, first.ownRun = some runId → second.ownRun ≠ some runId

theorem OpenRun.move (isOpen : OpenRun before address) (moves : RunsMove own before after)
    (isOther : own ≠ some address.runId) : OpenRun after address := by
  rcases isOpen with ⟨row, member, rfl, status⟩
  rcases moves row member with ⟨next, nextMem, sameAddress, _, stays⟩
  refine ⟨next, nextMem, sameAddress, ?_⟩
  rcases stays isOther with same | aborted
  · rw [same]
    exact status
  · exact Or.inr aborted

theorem Awaits.step (awaits : Awaits store launchId merchantId) (steps : LaunchStep store final) :
    Awaits final launchId merchantId := by
  rcases awaits with ⟨launch, member, rfl, rfl⟩
  rcases steps.kept launch member with ⟨next, nextMem, follows, _⟩
  exact ⟨next, nextMem, by rw [follows.frozen], by rw [follows.frozen]⟩

theorem LeftQueue.step (left : LeftQueue store launchId) (steps : LaunchStep store final) :
    LeftQueue final launchId := by
  rcases left with ⟨launch, member, rfl, notQueued⟩
  rcases steps.kept launch member with ⟨next, nextMem, follows, _⟩
  refine ⟨next, nextMem, by rw [follows.frozen], ?_⟩
  cases status : launch.status with
  | queued => exact absurd status notQueued
  | executing => exact follows.started status
  | completed | failed =>
      have same := follows.settled (by simp [EvaluationLaunch.isSettled, status])
      rw [same, status]
      decide

theorem Bindable.step (bindable : Bindable store launchId run)
    (effect : StageEffect own store final) (isOther : own ≠ some run.id) :
    Bindable final launchId run := by
  rcases bindable with ⟨⟨launch, member, rfl, merchant, baseline⟩, unnamed, isOpen⟩
  refine ⟨?_, ?_, isOpen.move effect.runs isOther⟩
  · rcases effect.launches.kept launch member with ⟨next, nextMem, follows, _⟩
    rw [follows.frozen] at nextMem
    exact ⟨_, nextMem, rfl, merchant, baseline⟩
  · intro other otherMem named
    rcases effect.names other otherMem run.id named with ⟨earlier, earlierMem, earlierNamed⟩ | isOwn
    · exact unnamed earlier earlierMem earlierNamed
    · exact isOther isOwn

variable {stage : LaunchStage}

/-- What another session does leaves a session with what it relies on. -/
theorem relies_of_effect (relies : stage.Relies store) (effect : StageEffect own store final)
    (isOther : ∀ runId, own = some runId → stage.ownRun ≠ some runId) : stage.Relies final := by
  have notOwn : ∀ runId, stage.ownRun = some runId → own ≠ some runId :=
    fun runId isStage isOwn => isOther runId isOwn isStage
  cases stage with
  | requesting _ | withdrawing _ _ | cancelling _ | inspecting _ _ | aborting _ _
  | settlingFor _ _ | claiming _ | halting _ _ => trivial
  | measuring launchId merchantId => exact Awaits.step relies effect.launches
  | preparing launchId merchantId =>
      cases launchId with
      | none => trivial
      | some launchId => exact Awaits.step relies effect.launches
  | starting launchId merchantId =>
      cases launchId with
      | none => trivial
      | some launchId => exact Awaits.step relies effect.launches
  | binding launchId run => exact ⟨relies.1.step effect (notOwn run.id rfl), relies.2⟩
  | closing launchId address held halted =>
      exact ⟨relies.1.move effect.runs (notOwn address.runId rfl), relies.2⟩
  | loading launch run =>
      exact ⟨relies.1.move effect.runs (notOwn run.id rfl),
        fun bound isBound => (relies.2 bound isBound).step effect.launches⟩
  | executing launch run step =>
      exact ⟨relies.1.move effect.runs (notOwn run.id rfl),
        fun bound isBound => (relies.2 bound isBound).step effect.launches⟩
  | failing launch failureCode => exact LeftQueue.step relies effect.launches
  | settling launch => exact LeftQueue.step relies effect.launches

/-! ## What a session leads itself to -/

theorem oldestLaunch_mem {launches : List EvaluationLaunch}
    (oldest : oldestLaunch launches = some launch) : launch ∈ launches := by
  induction launches with
  | nil => cases oldest
  | cons first rest ih =>
      unfold oldestLaunch at oldest
      split at oldest
      · cases oldest
        exact List.mem_cons_self
      · next other otherOldest =>
          split at oldest
          · cases oldest
            exact List.mem_cons_of_mem first (ih otherOldest)
          · cases oldest
            exact List.mem_cons_self

theorem claimNext_mem {worker : Worker} (claimed : claimNext worker store = some launch) :
    launch ∈ store.launches ∧ launch.status = .queued := by
  have member := List.mem_filter.mp (oldestLaunch_mem claimed)
  simp only [Bool.and_eq_true, decide_eq_true_eq] at member
  exact ⟨member.1, member.2.1.2⟩

/-- An operation that does not complete the run leaves it open. -/
theorem OpenRun.perform {operation : RunOperation} {held : Option SuiteRun}
    (isOpen : OpenRun before address)
    (performed : Benchmark.perform operation address held now before = .ok (run, after))
    (notComplete : operation ≠ .complete) : OpenRun after address := by
  rcases perform_eq_ok performed with ⟨stored, written, found, worked, sameAddress, _, afterEq⟩
  rcases find?_eq_some_iff.mp found with ⟨storedMem, storedAddress⟩
  have sameId : stored.id = written.stored.id :=
    congrArg RunAddress.runId (storedAddress.trans sameAddress.symm)
  have writtenMem : written.stored ∈ after.runs := by
    rw [afterEq]
    exact (Table.mem_set_iff storedMem sameId).mpr (Or.inl rfl)
  refine ⟨written.stored, writtenMem, sameAddress, ?_⟩
  by_cases aborts : operation = .abort
  · rw [aborts] at worked
    exact Or.inr (abortRun_eq_ok worked)
  · rcases isOpen with ⟨row, rowMem, rowAddress, status⟩
    have sameRow : row = stored := by
      apply Table.eq_of_key_eq rowMem storedMem
      exact congrArg RunAddress.runId (rowAddress.trans storedAddress.symm)
    rw [(rows_of_missionWork worked ⟨notComplete, aborts⟩).2, ← sameRow]
    exact status

/-- A suite that did not return leaves its run open. -/
theorem OpenRun.suite {step : SuiteStep} {input : RunInput} (isOpen : OpenRun before run.address)
    (goesOn : ∀ finished, (step.act input run before).2 ≠ .returned finished) :
    OpenRun (step.act input run before).1 run.address := by
  have same : ∀ {final : RunStore}, final.runs = before.runs → OpenRun final run.address := by
    intro final sameRuns
    unfold OpenRun
    rw [sameRuns]
    exact isOpen
  cases step with
  | admitting remaining =>
      apply same
      cases remaining with
      | nil => rfl
      | cons missionKey rest => cases raises : input.raises <;> simp [SuiteStep.act, raises]
  | preparing missionKey rest =>
      apply same
      simp only [SuiteStep.act]
      split
      · rfl
      · split
        · rfl
        · next prepared => rw [(prepareWorld_eq_ok prepared).2]
  | calling missionKey rest =>
      apply same
      simp only [SuiteStep.act]
      split <;> rfl
  | starting missionKey rest =>
      simp only [SuiteStep.act, suiteOperation]
      split
      · exact isOpen
      · next performed => exact isOpen.perform performed (by rintro ⟨⟩)
  | recording missionKey rest =>
      simp only [SuiteStep.act]
      split
      · exact isOpen
      · simp only [suiteOperation]
        split
        · exact isOpen
        · next performed => exact isOpen.perform performed (by rintro ⟨⟩)
  | completing =>
      simp only [SuiteStep.act, suiteOperation] at goesOn ⊢
      split
      · exact isOpen
      · next held runs performed =>
          simp only [performed] at goesOn
          exact absurd rfl (goesOn held)

variable {next : LaunchStage}

/-- What follows a suite relies on what the suite relied on. -/
theorem relies_afterSuite {launch : Option EvaluationLaunch} {outcome : SuiteOutcome}
    (leads : afterSuite launch address outcome = some next)
    (left : ∀ bound, launch = some bound → LeftQueue store bound.id)
    (isOpen : (∀ finished, outcome ≠ .returned finished) → OpenRun store.runs address)
    (sameAddress : ∀ run step, outcome = .continues run step → run.address = address) :
    next.Relies store ∧ (next.ownRun = none ∨ next.ownRun = some address.runId) := by
  cases outcome with
  | continues run step =>
      cases leads
      have runAddress := sameAddress run step rfl
      refine ⟨⟨?_, left⟩, Or.inr ?_⟩
      · rw [runAddress]
        exact isOpen nofun
      · exact congrArg some (congrArg RunAddress.runId runAddress)
  | returned run =>
      rcases Option.map_eq_some_iff.mp leads with ⟨bound, isBound, rfl⟩
      exact ⟨left bound isBound, Or.inl rfl⟩
  | raised raised =>
      cases raised with
      | halted failureCode =>
          rcases Option.map_eq_some_iff.mp leads with ⟨bound, isBound, rfl⟩
          exact ⟨⟨isOpen nofun, nofun⟩, Or.inr rfl⟩
      | failed failure => cases leads

/-- A run that was just created stands beside the others. -/
theorem startRun_fresh (started : startRun address missionKeys now store.runs = .ok (run, runs)) :
    run = createdRun address missionKeys now ∧
      (∀ other ∈ store.runs.runs, other.id ≠ address.runId) ∧ OpenRun runs address := by
  rcases startRun_eq_ok started with ⟨_, runEq, rows, inserted, runsEq⟩
  refine ⟨runEq, ?_, run, ?_, by rw [runEq]; rfl, Or.inl (by rw [runEq]; rfl)⟩
  · have fresh := (Table.insert?_eq_some_iff.mp inserted).1
    rw [runEq] at fresh
    exact fresh
  · rw [runsEq]
    exact (Table.mem_insert?_iff inserted).mpr (Or.inr rfl)

/-- A named run is in the table. -/
theorem exists_of_namesRun (named : namesRun runs merchantId (some runId) = true) :
    ∃ run ∈ runs.runs, run.id = runId := by
  rcases Option.isSome_iff_exists.mp named with ⟨run, found⟩
  rcases find?_eq_some_iff.mp found with ⟨member, sameAddress⟩
  exact ⟨run, member, congrArg RunAddress.runId sameAddress⟩

/-- The run that a dispatcher has just created can be bound to its launch. -/
theorem bindable_of_started {newId : Uuid} (agree : RecordsAgree store)
    (awaits : Awaits store launchId merchantId)
    (started : startRun ⟨newId, merchantId⟩ missionKeys now store.runs = .ok (run, runs))
    (sameLaunches : final.launches = store.launches) (finalRuns : final.runs = runs) :
    Bindable final launchId run := by
  rcases startRun_fresh started with ⟨rfl, fresh, isOpen⟩
  have notNamed : ∀ launch ∈ store.launches, launch.runId ≠ some newId ∧
      launch.baselineRunId ≠ some newId := by
    intro launch member
    rcases agree.named launch member with ⟨runNamed, baselineNamed⟩
    constructor <;> intro named
    · rw [named] at runNamed
      rcases exists_of_namesRun runNamed with ⟨other, otherMem, sameId⟩
      exact fresh other otherMem sameId
    · rw [named] at baselineNamed
      rcases exists_of_namesRun baselineNamed with ⟨other, otherMem, sameId⟩
      exact fresh other otherMem sameId
  rcases awaits with ⟨launch, member, sameId, merchant⟩
  refine ⟨⟨launch, ?_, sameId, merchant, (notNamed launch member).2⟩, ?_, ?_⟩
  · rw [sameLaunches]
    exact member
  · rw [sameLaunches]
    exact fun other otherMem => (notNamed other otherMem).1
  · rw [finalRuns]
    exact isOpen

/-- A bound launch has left the queue. -/
theorem leftQueue_of_bindRun {halts : Option String}
    (bound : bindRun launchId runId halts store = .ok (launch, final)) :
    LeftQueue final launch.id := by
  rcases bindRun_eq_ok bound with ⟨_, stored, member, _, _, launchEq, written⟩
  unfold writeLaunch at written
  split at written
  · cases written
  · split at written <;> cases written
    refine ⟨launch, (Table.mem_set_iff member ?_).mpr (Or.inl rfl), rfl, ?_⟩
    · rw [launchEq]
      rfl
    · rw [launchEq]
      exact nofun

variable {input : LaunchInput}

/-- Where the binding of a run leads. -/
theorem bindingStep_leads (bindable : Bindable store launchId run)
    (running : run.status = .running)
    (leads : (bindingStep input launchId run store).2 = some next) :
    next.Relies (bindingStep input launchId run store).1 ∧
      (next.ownRun = none ∨ next.ownRun = some run.id ∨
        ∃ runId, next.ownRun = some runId ∧ ∀ row ∈ store.runs.runs, row.id ≠ runId) := by
  unfold bindingStep at leads ⊢
  cases bound : bindRun launchId run.id (input.raises.bind Raised.code?) store with
  | ok result =>
      rw [bound] at leads
      cases leads
      have isOpen : OpenRun result.2.runs run.address := by
        rw [(bindRun_write bound).runs.1]
        exact bindable.isOpen
      refine ⟨⟨isOpen, ?_⟩, Or.inr (Or.inl rfl)⟩
      rintro _ ⟨⟩
      exact leftQueue_of_bindRun bound
  | error raised =>
      rw [bound] at leads
      cases raised with
      | halted failureCode =>
          cases leads
          refine ⟨⟨bindable.isOpen, ?_⟩, Or.inr (Or.inl rfl)⟩
          rintro _ ⟨⟩
      | failed failure =>
          cases failure with
          | conflict reason detail resource identifier =>
              cases leads
              refine ⟨⟨bindable.isOpen, ?_⟩, Or.inr (Or.inl rfl)⟩
              rintro _ ⟨⟩
              exact running
          | notFound resource identifier => cases leads
          | valueError error => cases leads
          | integrityError constraint => cases leads

/-- Where the start of a run leads. -/
theorem startingStep_leads {launchId : Option Uuid} (agree : RecordsAgree store)
    (awaits : ∀ awaited, launchId = some awaited → Awaits store awaited merchantId)
    (leads : (startingStep input launchId merchantId store).2 = some next) :
    next.Relies (startingStep input launchId merchantId store).1 ∧
      ∃ runId, next.ownRun = some runId ∧ ∀ row ∈ store.runs.runs, row.id ≠ runId := by
  unfold startingStep at leads ⊢
  cases started : startRun ⟨input.newId, merchantId⟩ input.missionKeys input.now store.runs with
  | error failure =>
      rw [started] at leads
      cases leads
  | ok result =>
      rcases startRun_fresh started with ⟨runEq, fresh, isOpen⟩
      rw [started] at leads
      have isNew : ∀ row ∈ store.runs.runs, row.id ≠ result.1.id := by
        rw [runEq]
        exact fresh
      have addressEq : result.1.address = ⟨input.newId, merchantId⟩ := by
        rw [runEq]
        rfl
      cases launchId with
      | none =>
          cases leads
          refine ⟨⟨?_, ?_⟩, result.1.id, rfl, isNew⟩
          · rw [addressEq]
            exact isOpen
          · rintro _ ⟨⟩
      | some launchId =>
          cases leads
          refine ⟨⟨?_, ?_⟩, result.1.id, rfl, isNew⟩
          · exact bindable_of_started agree (awaits launchId rfl) started rfl rfl
          · rw [runEq]
            rfl

/-- Where a stage leads, the next one has what it relies on.  The run of the session is the
same, or none, or one that was just created. -/
theorem act_leads (agree : RecordsAgree store) (relies : stage.Relies store)
    (leads : (stage.act input store).2 = some next) :
    next.Relies (stage.act input store).1 ∧
      (next.ownRun = none ∨ next.ownRun = stage.ownRun ∨
        ∃ runId, next.ownRun = some runId ∧ ∀ row ∈ store.runs.runs, row.id ≠ runId) := by
  have noNext : ∀ outcome : Except Failure LaunchStore, (lastly outcome store).2 ≠ some next := by
    intro outcome
    cases outcome <;> exact nofun
  cases stage with
  | requesting request => exact absurd leads (noNext _)
  | withdrawing merchantId launchId => exact absurd leads (noNext _)
  | cancelling launchId => exact absurd leads (noNext _)
  | settlingFor runId held => exact absurd leads (noNext _)
  | failing launch failureCode => exact absurd leads (noNext _)
  | settling launch => exact absurd leads (noNext _)
  | inspecting address aborts =>
      simp only [LaunchStage.act] at leads ⊢
      split at leads
      · cases leads
      · split at leads
        · cases leads
          exact ⟨trivial, Or.inl rfl⟩
        · split at leads <;> cases leads
          exact ⟨trivial, Or.inl rfl⟩
  | aborting address held =>
      simp only [LaunchStage.act] at leads
      split at leads <;> cases leads
      exact ⟨trivial, Or.inl rfl⟩
  | claiming worker =>
      cases claimed : claimNext worker store with
      | none => simp [LaunchStage.act, claimed] at leads
      | some launch =>
          cases refused : input.refused with
          | some failureCode =>
              simp only [LaunchStage.act, claimed, refused] at leads
              exact absurd leads (noNext _)
          | none =>
              simp only [LaunchStage.act, claimed, refused, Option.some.injEq] at leads ⊢
              rw [← leads]
              exact ⟨⟨launch, (claimNext_mem claimed).1, rfl, rfl⟩, Or.inl rfl⟩
  | measuring launchId merchantId =>
      cases refused : input.refused with
      | some failureCode =>
          simp only [LaunchStage.act, refused] at leads
          exact absurd leads (noNext _)
      | none =>
          cases waits : input.waits with
          | true => simp [LaunchStage.act, refused, waits] at leads
          | false =>
              simp only [LaunchStage.act, refused, waits, Bool.false_eq_true, if_false,
                Option.some.injEq] at leads ⊢
              rw [← leads]
              exact ⟨relies, Or.inl rfl⟩
  | preparing launchId merchantId =>
      cases prepared : prepareWorld merchantId none store.runs with
      | error failure => simp [LaunchStage.act, prepared] at leads
      | ok runs =>
          simp only [LaunchStage.act, prepared, Option.some.injEq] at leads ⊢
          rw [← leads]
          cases launchId with
          | none => exact ⟨trivial, Or.inl rfl⟩
          | some launchId => exact ⟨relies, Or.inl rfl⟩
  | starting launchId merchantId =>
      have awaits : ∀ awaited, launchId = some awaited → Awaits store awaited merchantId := by
        rintro awaited rfl
        exact relies
      rcases startingStep_leads agree awaits leads with ⟨nextRelies, isNew⟩
      exact ⟨nextRelies, Or.inr (Or.inr isNew)⟩
  | binding launchId run => exact bindingStep_leads relies.1 relies.2 leads
  | closing launchId address held halted =>
      simp only [LaunchStage.act] at leads
      split at leads
      · cases leads
      · rcases Option.map_eq_some_iff.mp leads with ⟨failureCode, _, rfl⟩
        exact ⟨trivial, Or.inl rfl⟩
  | loading launch run =>
      have after := relies_afterSuite leads relies.2 (fun _ => relies.1) (by
        intro loaded step continues
        rcases (loadSuite_continues continues).2 with ⟨_, _, rfl⟩
        rfl)
      exact ⟨after.1, after.2.elim Or.inl fun same => Or.inr (Or.inl same)⟩
  | executing launch run step =>
      have isEffect : StageEffect (some run.id) store
          ((LaunchStage.executing launch run step).act input store).1 :=
        act_effect (.executing launch run step) input store
      have after := relies_afterSuite leads
        (fun bound isBound => (relies.2 bound isBound).step isEffect.launches)
        (fun goesOn => relies.1.suite goesOn)
        (fun next nextStep continues => address_of_row (row_of_suiteStep continues))
      exact ⟨after.1, after.2.elim Or.inl fun same => Or.inr (Or.inl same)⟩
  | halting launchId failureCode =>
      cases found : store.launches.get? launchId with
      | none => simp [LaunchStage.act, found] at leads
      | some launch =>
          by_cases queued : launch.status = .queued
          · simp [LaunchStage.act, found, queued] at leads
          · simp only [LaunchStage.act, found, if_neg queued, Option.some.injEq] at leads ⊢
            rw [← leads]
            exact ⟨⟨launch, (Table.get?_eq_some_iff.mp found).1, rfl, queued⟩, Or.inl rfl⟩

/-- The run of a session is stored. -/
theorem ownRun_stored (relies : stage.Relies store) (isOwn : stage.ownRun = some runId) :
    ∃ row ∈ store.runs.runs, row.id = runId := by
  have ofOpen : ∀ {address : RunAddress}, OpenRun store.runs address → address.runId = runId →
      ∃ row ∈ store.runs.runs, row.id = runId := by
    rintro _ ⟨row, member, rfl, _⟩ sameId
    exact ⟨row, member, sameId⟩
  cases stage with
  | binding launchId run => exact ofOpen relies.1.isOpen (Option.some.inj isOwn)
  | closing launchId address held halted => exact ofOpen relies.1 (Option.some.inj isOwn)
  | loading launch run => exact ofOpen relies.1 (Option.some.inj isOwn)
  | executing launch run step => exact ofOpen relies.1 (Option.some.inj isOwn)
  | requesting _ | withdrawing _ _ | cancelling _ | inspecting _ _ | aborting _ _
  | settlingFor _ _ | claiming _ | measuring _ _ | preparing _ _ | starting _ _ | halting _ _
  | failing _ _ | settling _ => cases isOwn

theorem tick_effect (tick : ClockTick) (store : LaunchStore) :
    StageEffect none store (launchSystem.outside tick store) :=
  .move rfl (by simp [launchSystem]) (.of_same rfl)

/-- Whatever the surroundings do, every step keeps the discipline. -/
theorem launchSystem_keeps : System.Keeps launchSystem System.Regime.free launchDiscipline where
  symmetric apart runId isSecond isFirst := apart runId isFirst isSecond
  enterRelies call state _ := by cases call <;> trivial
  enterApart call other runId isOwn := by cases call <;> cases isOwn
  actShared input stage state agree _ := (act_effect stage input state).agree agree
  actRelies input stage state next agree relies leads := (act_leads agree relies leads).1
  actOthers input stage state other _ _ otherRelies apart :=
    relies_of_effect otherRelies (act_effect stage input state) apart
  actApart input stage state next other agree relies otherRelies apart leads _ := by
    intro runId isNext isOther
    rcases (act_leads agree relies leads).2 with isNone | isSame | ⟨newId, isNew, fresh⟩
    · rw [isNone] at isNext
      cases isNext
    · exact apart runId (isSame.symm.trans isNext) isOther
    · rcases ownRun_stored otherRelies isOther with ⟨row, member, sameId⟩
      rw [isNext, Option.some.injEq] at isNew
      exact fresh row member (sameId.trans isNew)
  outsideShared tick state _ agree := (tick_effect tick state).agree agree
  outsideOthers tick state other _ _ relies := by
    apply relies_of_effect relies (tick_effect tick state)
    rintro _ ⟨⟩

end AgentRank.Benchmark
