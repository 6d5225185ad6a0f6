import AgentRank.Benchmark.Runner

/-!
# What an abort closes

Once a run is aborted its row never changes again: every write of the runner reaches a
trigger that refuses it.  What the trigger does not see is a step that writes no row of the
run.  Whether such a step is refused is decided by the copy that the session holds.

An abort closes a run for a session exactly when the session's copy says so.
-/

namespace AgentRank.Benchmark

open Relational Store Transition

/-- What a step does to the stored runs and to the world of a merchant. -/
inductive RunEffect
  | performs (operation : RunOperation) (address : RunAddress) (held : Option SuiteRun)
  | prepares (address : RunAddress)
  | calls (runId : Uuid) (missionKey : String)
  | nothing

def RunEffect.apply (effect : RunEffect) (now : Instant) (store : RunStore) : RunStore :=
  match effect with
  | .performs operation address held =>
      match perform operation address held now store with
      | .error _ => store
      | .ok (_, final) => final
  | .prepares address =>
      match prepareWorld address.merchantId (some address.runId) store with
      | .error _ => store
      | .ok final => final
  | .calls runId missionKey => { store with calls := store.calls ++ [(runId, missionKey)] }
  | .nothing => store

/-- A step of the suite prepares and records only when nothing fails before it does. -/
def SuiteStep.effect (step : SuiteStep) (input : RunInput) (run : SuiteRun) : RunEffect :=
  match step, input.raises with
  | .preparing _ _, none => .prepares run.address
  | .starting missionKey _, _ => .performs (.startMission missionKey) run.address (some run)
  | .calling missionKey _, _ => .calls run.id missionKey
  | .recording missionKey _, none =>
      .performs (.record missionKey input.evaluation) run.address (some run)
  | .completing, _ => .performs .complete run.address (some run)
  | _, _ => .nothing

def RunStage.effect (stage : RunStage) (input : RunInput) : RunEffect :=
  match stage with
  | .working (.operation operation) address held => .performs operation address held
  | .executing run step => step.effect input run
  | _ => .nothing

variable {operation : RunOperation} {now : Instant} {store : RunStore}

theorem suiteOperation_store {run : SuiteRun} {next : SuiteRun → SuiteOutcome} :
    (suiteOperation operation now run store next).1 =
      (RunEffect.performs operation run.address (some run)).apply now store := by
  cases performed : perform operation run.address (some run) now store <;>
    simp [suiteOperation, RunEffect.apply, performed]

/-- The store after a step of the suite. -/
theorem suiteStep_store (step : SuiteStep) (input : RunInput) (run : SuiteRun)
    (store : RunStore) :
    (step.act input run store).1 = (step.effect input run).apply input.now store := by
  cases step with
  | admitting remaining =>
      cases remaining with
      | nil => rfl
      | cons missionKey rest => cases raises : input.raises <;> simp [SuiteStep.act, raises,
          SuiteStep.effect, RunEffect.apply]
  | preparing missionKey rest =>
      cases raises : input.raises with
      | some raised => simp [SuiteStep.act, SuiteStep.effect, raises, RunEffect.apply]
      | none =>
          cases prepared : prepareWorld run.merchantId (some run.id) store <;>
            simp [SuiteStep.act, SuiteStep.effect, raises, RunEffect.apply, SuiteRun.address,
              prepared]
  | starting missionKey rest => exact suiteOperation_store
  | calling missionKey rest =>
      cases raises : input.raises <;> simp [SuiteStep.act, SuiteStep.effect, raises,
        RunEffect.apply]
  | recording missionKey rest =>
      cases raises : input.raises with
      | some raised => simp [SuiteStep.act, SuiteStep.effect, raises, RunEffect.apply]
      | none =>
          simp only [SuiteStep.act, SuiteStep.effect, raises]
          exact suiteOperation_store
  | completing => exact suiteOperation_store

/-- The store after a step is what its effect makes of it. -/
theorem act_store (stage : RunStage) (input : RunInput) (store : RunStore) :
    (stage.act input store).1 = (stage.effect input).apply input.now store := by
  cases stage with
  | retaining work address => rfl
  | working work address held =>
      cases work with
      | suite => rfl
      | operation operation =>
          cases performed : perform operation address held input.now store <;>
            simp [RunStage.act, RunStage.effect, RunEffect.apply, performed]
  | executing run step => exact suiteStep_store step input run store

/-! ## Operations on a finished run -/

/-- The reason of a conflict. -/
def conflictReason : Failure → Option String
  | .conflict reason _ _ _ => some reason
  | _ => none

/-- The reason that an operation documents for a run that has finished. -/
def RunOperation.finishedReason : RunOperation → String
  | .startMission _ => "run_not_running"
  | .record _ _ => "run_not_running"
  | .complete => "run_already_finished"
  | .abort => "run_already_finished"

/-- What an operation reads on its copy of a run before it says that the run has finished.
Completing a run counts its missions first. -/
def RunOperation.Refuses (operation : RunOperation) (run : SuiteRun) : Prop :=
  match operation with
  | .startMission _ => run.status ≠ .running
  | .record _ _ => run.status ≠ .running
  | .complete => run.isTerminal = true ∧ run.unfinished = []
  | .abort => run.isTerminal = true

variable {missionKey : String}

section Finished

variable {run stored : SuiteRun} {now : Instant}

theorem missionGuard_of_terminal (terminal : stored.isTerminal = true)
    (old new : BenchmarkMissionRun) : ∃ message, missionGuard stored old new = some message := by
  simp only [missionGuard, terminal, if_true]
  split <;> exact ⟨_, rfl⟩

theorem runGuard_of_terminal (terminal : stored.isTerminal = true) (new : SuiteRun) :
    ∃ message, runGuard stored new = some message := by
  simp only [runGuard, terminal, if_true]
  split <;> exact ⟨_, rfl⟩

/-- No mission of a finished run can be written. -/
theorem writeMission_of_terminal (terminal : stored.isTerminal = true) (missionKey : String)
    (change : BenchmarkMissionRun → BenchmarkMissionRun) :
    ∃ failure, writeMission stored missionKey change = .error failure ∧
      conflictReason failure = none := by
  unfold writeMission
  cases found : stored.missionRun? missionKey with
  | none => exact ⟨.notFound "benchmark_mission_run" missionKey, rfl, rfl⟩
  | some mission =>
      rcases missionGuard_of_terminal terminal mission (change mission) with ⟨message, guarded⟩
      exact ⟨.integrityError message, by simp only [guarded], rfl⟩

/-- A finished run cannot be written. -/
theorem writeRun_of_terminal (terminal : stored.isTerminal = true)
    (change : SuiteRun → SuiteRun) :
    ∃ failure, writeRun stored change = .error failure ∧ conflictReason failure = none := by
  rcases runGuard_of_terminal terminal (change stored) with ⟨message, guarded⟩
  exact ⟨.integrityError message, by simp only [writeRun, guarded], rfl⟩

theorem openMission_error {failure : Failure}
    (refused : openMission run missionKey = .error failure) :
    conflictReason failure ≠ some "run_not_running" := by
  unfold openMission at refused
  split at refused
  · cases refused
    simp [conflictReason]
  · split at refused
    · cases refused
      simp [conflictReason, missionAlreadyRecorded, runConflict]
    · cases refused

/-- Beginning a mission of a finished run is refused by the database, or it writes nothing. -/
theorem beginPending_of_terminal (terminal : stored.isTerminal = true) (missionKey : String)
    (mission : BenchmarkMissionRun) :
    (∃ failure, beginPending run stored now missionKey mission = .error failure ∧
      conflictReason failure = none) ∨
    beginPending run stored now missionKey mission = .ok { held := run, stored := stored } := by
  unfold beginPending
  split
  · rcases writeMission_of_terminal terminal missionKey (beginMission now) with
      ⟨failure, refused, noConflict⟩
    exact Or.inl ⟨failure, by rw [refused]; rfl, noConflict⟩
  · exact Or.inr rfl

/-- A finished run is not finished again, and the reason is the documented one when the copy
says that the run has finished. -/
theorem finishRun_of_terminal (terminal : stored.isTerminal = true)
    (status : BenchmarkRunStatus) :
    ∃ failure, finishRun run stored now status = .error failure ∧
      (run.isTerminal = true ↔ conflictReason failure = some "run_already_finished") := by
  by_cases finished : run.isTerminal = true
  · refine ⟨alreadyFinished run, by simp [finishRun, finished], ?_⟩
    simp [finished, conflictReason, alreadyFinished, runConflict]
  · rcases writeRun_of_terminal terminal (closeRunAs status now) with
      ⟨failure, refused, noConflict⟩
    refine ⟨failure, ?_, by simp [finished, noConflict]⟩
    simp [finishRun, finished, refused, bind, Except.bind]

/-- Work on a mission is refused by the copy, or it goes on with a mission that has no result
yet. -/
theorem missionWork_outcome {rest : BenchmarkMissionRun → Except Failure Written}
    (ends : ∀ mission,
      (∃ failure, rest mission = .error failure ∧ conflictReason failure = none) ∨
        ∃ written, rest mission = .ok written ∧ written.stored = stored) :
    let work := requireRunning run >>= fun _ => openMission run missionKey >>= rest
    (∃ failure, work = .error failure ∧
      (run.status ≠ .running ↔ conflictReason failure = some "run_not_running")) ∨
    (∃ written, work = .ok written ∧ written.stored = stored ∧ ¬run.status ≠ .running) := by
  intro work
  by_cases running : run.status = .running
  · have opening : work = openMission run missionKey >>= rest := by
      simp [work, requireRunning, running, bind, Except.bind]
    rw [opening]
    cases opened : openMission run missionKey with
    | error failure => exact Or.inl ⟨failure, rfl, by simp [running, openMission_error opened]⟩
    | ok mission =>
        rcases ends mission with ⟨failure, refused, noConflict⟩ | ⟨written, wrote, same⟩
        · exact Or.inl ⟨failure, refused, by simp [running, noConflict]⟩
        · exact Or.inr ⟨written, wrote, same, by simp [running]⟩
  · refine Or.inl ⟨notRunning run, ?_, ?_⟩
    · simp [work, requireRunning, running, bind, Except.bind]
    · simp [running, conflictReason, notRunning, runConflict]

/-- An operation on a finished run is refused, or it writes nothing.  It is refused for the
documented reason exactly when the copy that it decides on says so. -/
theorem work_of_terminal (terminal : stored.isTerminal = true) (operation : RunOperation) :
    (∃ failure, operation.work run stored now = .error failure ∧
      (operation.Refuses run ↔ conflictReason failure = some operation.finishedReason)) ∨
    (∃ written, operation.work run stored now = .ok written ∧ written.stored = stored ∧
      ¬operation.Refuses run) := by
  cases operation with
  | startMission missionKey =>
      apply missionWork_outcome
      intro mission
      rcases beginPending_of_terminal terminal missionKey mission with refused | kept
      · exact Or.inl refused
      · exact Or.inr ⟨_, kept, rfl⟩
  | record missionKey evaluation =>
      apply missionWork_outcome
      intro mission
      left
      rcases beginPending_of_terminal terminal missionKey mission with
        ⟨failure, refused, noConflict⟩ | kept
      · exact ⟨failure, by rw [refused]; rfl, noConflict⟩
      · rcases writeMission_of_terminal terminal missionKey (applyEvaluation evaluation now)
          with ⟨failure, refused, noConflict⟩
        refine ⟨failure, ?_, noConflict⟩
        rw [kept]
        change (writeMission stored missionKey (applyEvaluation evaluation now)).bind _ = _
        rw [refused]
        rfl
  | complete =>
      rcases finishRun_of_terminal terminal .completed with ⟨failure, refused, reason⟩
      by_cases unfinished : run.unfinished = []
      · refine Or.inl ⟨failure, ?_, ?_⟩
        · simpa [RunOperation.work, completeRun, unfinished] using refused
        · simpa [RunOperation.Refuses, unfinished, RunOperation.finishedReason] using reason
      · refine Or.inl ⟨runIncomplete run, ?_, ?_⟩
        · simp [RunOperation.work, completeRun, unfinished]
        · simp [RunOperation.Refuses, unfinished, conflictReason, runIncomplete, runConflict,
            RunOperation.finishedReason]
  | abort =>
      rcases finishRun_of_terminal terminal .aborted with ⟨failure, refused, reason⟩
      exact Or.inl ⟨failure, refused, reason⟩

end Finished

/-! ## What every operation leaves alone -/

variable {address : RunAddress}

theorem find?_eq_some_iff {row : SuiteRun} :
    store.find? address = some row ↔ row ∈ store.runs ∧ row.address = address := by
  cases address with
  | mk runId merchantId =>
      simp only [RunStore.find?, Option.filter_eq_some_iff, Table.get?_eq_some_iff,
        decide_eq_true_eq, SuiteRun.address, RunAddress.mk.injEq, and_assoc]
      rfl

variable {stored : SuiteRun}

/-- Writing a mission leaves the columns of the run itself. -/
theorem row_of_writeMission {changed : SuiteRun}
    {change : BenchmarkMissionRun → BenchmarkMissionRun}
    (written : writeMission stored missionKey change = .ok changed) :
    changed.toBenchmarkRun = stored.toBenchmarkRun := by
  unfold writeMission at written
  split at written
  · cases written
  · split at written <;> cases written
    rfl

variable {written : Written}

theorem rows_of_beginPending {run : SuiteRun} {mission : BenchmarkMissionRun}
    (begun : beginPending run stored now missionKey mission = .ok written) :
    written.held.toBenchmarkRun = run.toBenchmarkRun ∧
      written.stored.toBenchmarkRun = stored.toBenchmarkRun := by
  unfold beginPending at begun
  split at begun
  · rcases except_bind_eq_ok_iff.mp begun with ⟨changed, wrote, result⟩
    cases result
    exact ⟨rfl, row_of_writeMission wrote⟩
  · cases begun
    exact ⟨rfl, rfl⟩

/-- Working on a mission leaves the columns of the run, in the copy and in the stored row. -/
theorem rows_of_missionWork {run : SuiteRun}
    (worked : operation.work run stored now = .ok written)
    (ofMission : operation ≠ .complete ∧ operation ≠ .abort) :
    written.held.toBenchmarkRun = run.toBenchmarkRun ∧
      written.stored.toBenchmarkRun = stored.toBenchmarkRun := by
  cases operation with
  | startMission missionKey =>
      rcases except_bind_eq_ok_iff.mp worked with ⟨_, _, opening⟩
      rcases except_bind_eq_ok_iff.mp opening with ⟨_, _, begun⟩
      exact rows_of_beginPending begun
  | record missionKey evaluation =>
      rcases except_bind_eq_ok_iff.mp worked with ⟨_, _, opening⟩
      rcases except_bind_eq_ok_iff.mp opening with ⟨_, _, beginning⟩
      rcases except_bind_eq_ok_iff.mp beginning with ⟨begun, began, recording⟩
      rcases except_bind_eq_ok_iff.mp recording with ⟨changed, wrote, result⟩
      cases result
      have rows := rows_of_beginPending began
      exact ⟨rows.1, (row_of_writeMission wrote).trans rows.2⟩
  | complete => exact absurd rfl ofMission.1
  | abort => exact absurd rfl ofMission.2

theorem address_of_row {first second : SuiteRun}
    (same : first.toBenchmarkRun = second.toBenchmarkRun) : first.address = second.address := by
  simp only [SuiteRun.address, same]

theorem address_of_finishRun {run : SuiteRun} {status : BenchmarkRunStatus}
    (finished : finishRun run stored now status = .ok written) :
    written.stored.address = stored.address := by
  unfold finishRun at finished
  split at finished
  · cases finished
  · rcases except_bind_eq_ok_iff.mp finished with ⟨changed, wrote, result⟩
    cases result
    unfold writeRun at wrote
    split at wrote <;> cases wrote
    rfl

/-- An operation writes the row that it locked. -/
theorem address_of_work {run : SuiteRun} (worked : operation.work run stored now = .ok written) :
    written.stored.address = stored.address := by
  cases operation with
  | startMission missionKey =>
      exact address_of_row (rows_of_missionWork worked ⟨nofun, nofun⟩).2
  | record missionKey evaluation =>
      exact address_of_row (rows_of_missionWork worked ⟨nofun, nofun⟩).2
  | complete =>
      change completeRun run stored now = .ok written at worked
      unfold completeRun at worked
      split at worked
      · cases worked
      · exact address_of_finishRun worked
  | abort => exact address_of_finishRun worked

variable {held : Option SuiteRun}

/-- An operation keeps every row but the one under its address, and leaves no trace in the
world of the merchant. -/
theorem perform_eq_ok {final : RunStore} {run : SuiteRun}
    (performed : perform operation address held now store = .ok (run, final)) :
    ∃ stored written, store.find? address = some stored ∧
      operation.work (held.getD stored) stored now = .ok written ∧
      written.stored.address = address ∧ run = written.held ∧ final = store.put written.stored := by
  unfold perform at performed
  cases found : store.find? address with
  | none => simp [found] at performed
  | some stored =>
      cases worked : operation.work (held.getD stored) stored now with
      | error failure => simp [found, worked] at performed
      | ok written =>
          simp only [found, worked, Except.ok.injEq, Prod.mk.injEq] at performed
          have sameAddress := (address_of_work worked).trans (find?_eq_some_iff.mp found).2
          exact ⟨stored, written, rfl, worked, sameAddress, performed.1.symm, performed.2.symm⟩

/-- Preparing a world writes no run. -/
theorem prepareWorld_eq_ok {merchantId : Uuid} {forRun : Option Uuid} {final : RunStore}
    (prepared : prepareWorld merchantId forRun store = .ok final) :
    (store.activeRunId merchantId = none ∨ store.activeRunId merchantId = forRun) ∧
      final = { store with resets := store.resets ++ [(merchantId, forRun)] } := by
  unfold prepareWorld at prepared
  cases active : store.activeRunId merchantId with
  | none =>
      simp only [active, Except.ok.injEq] at prepared
      exact ⟨Or.inl rfl, prepared.symm⟩
  | some runId =>
      by_cases isNamed : some runId = forRun
      · simp only [active, if_pos isNamed, Except.ok.injEq] at prepared
        exact ⟨Or.inr isNamed, prepared.symm⟩
      · simp [active, isNamed] at prepared

/-- A step of a suite leaves the runs as they are, or performs an operation on its run. -/
theorem suiteStep_runs (step : SuiteStep) (input : RunInput) (run : SuiteRun) (store : RunStore) :
    (step.act input run store).1.runs = store.runs ∨
      ∃ operation held result, perform operation run.address held input.now store =
        .ok (result, (step.act input run store).1) := by
  rw [suiteStep_store]
  cases effectEq : step.effect input run with
  | nothing | calls runId missionKey => exact Or.inl rfl
  | prepares address =>
      cases prepared : prepareWorld address.merchantId (some address.runId) store with
      | error failure => exact Or.inl (by simp only [RunEffect.apply, prepared])
      | ok final =>
          exact Or.inl (by simp only [RunEffect.apply, prepared, (prepareWorld_eq_ok prepared).2])
  | performs operation address held =>
      have isOwn : address = run.address := by
        unfold SuiteStep.effect at effectEq
        split at effectEq <;> cases effectEq <;> rfl
      cases performed : perform operation address held input.now store with
      | error failure => exact Or.inl (by simp only [RunEffect.apply, performed])
      | ok result =>
          refine Or.inr ⟨operation, held, result.1, ?_⟩
          simp only [RunEffect.apply, performed, ← isOwn]

section Closed

variable {store : RunStore} {row : SuiteRun}

/-- An operation on a finished run is refused, or it writes nothing. -/
theorem perform_of_terminal (stored : row ∈ store.runs) (terminal : row.isTerminal = true)
    (operation : RunOperation) (held : Option SuiteRun) (now : Instant) :
    (∃ failure, perform operation row.address held now store = .error failure ∧
      (operation.Refuses (held.getD row) ↔
        conflictReason failure = some operation.finishedReason)) ∨
    (∃ run, perform operation row.address held now store = .ok (run, store) ∧
      ¬operation.Refuses (held.getD row)) := by
  have found : store.find? row.address = some row := find?_eq_some_iff.mpr ⟨stored, rfl⟩
  have outcome := @work_of_terminal (held.getD row) row now terminal operation
  rcases outcome with ⟨failure, refused, reason⟩ | ⟨written, worked, same, unrefused⟩
  · exact Or.inl ⟨failure, by simp only [perform, found, refused], reason⟩
  · refine Or.inr ⟨written.held, ?_, unrefused⟩
    simp only [perform, found, worked, same, RunStore.put, Table.set_of_mem stored]

/-- No effect changes the row of a finished run. -/
theorem apply_keeps (stored : row ∈ store.runs) (terminal : row.isTerminal = true)
    (effect : RunEffect) (now : Instant) : row ∈ (effect.apply now store).runs := by
  cases effect with
  | performs operation address held =>
      by_cases sameAddress : address = row.address
      · rw [sameAddress]
        rcases perform_of_terminal stored terminal operation held now with
          ⟨failure, refused, _⟩ | ⟨run, performed, _⟩
        · simpa only [RunEffect.apply, refused] using stored
        · simpa only [RunEffect.apply, performed] using stored
      · cases performed : perform operation address held now store with
        | error failure => simpa only [RunEffect.apply, performed] using stored
        | ok result =>
            rcases perform_eq_ok performed with ⟨_, written, found, _, writtenAddress, _, final⟩
            simp only [RunEffect.apply, performed, final]
            apply Table.mem_set_of_ne stored
            intro sameId
            rcases find?_eq_some_iff.mp found with ⟨otherStored, otherAddress⟩
            have sameRow := Table.eq_of_key_eq stored otherStored
              (sameId.trans (congrArg RunAddress.runId (writtenAddress.trans otherAddress.symm)))
            exact sameAddress (otherAddress.symm.trans (congrArg SuiteRun.address sameRow.symm))
  | prepares address =>
      cases prepared : prepareWorld address.merchantId (some address.runId) store with
      | error failure => simpa only [RunEffect.apply, prepared] using stored
      | ok final =>
          simpa only [RunEffect.apply, prepared, (prepareWorld_eq_ok prepared).2] using stored
  | calls runId missionKey => exact stored
  | nothing => exact stored

/-- An aborted run is not the active one. -/
theorem activeRunId_ne (stored : row ∈ store.runs) (aborted : row.status = .aborted)
    (merchantId : Uuid) : store.activeRunId merchantId ≠ some row.id := by
  intro active
  rcases Option.map_eq_some_iff.mp active with ⟨other, found, sameId⟩
  have sameRow := Table.eq_of_key_eq (List.mem_of_find?_eq_some found) stored sameId
  have running := List.find?_some found
  simp [sameRow, aborted] at running

/-- What keeps an effect from an aborted run: the guard that stands before it refuses. -/
def RunEffect.Spares (effect : RunEffect) (store : RunStore) (row : SuiteRun) : Prop :=
  match effect with
  | .performs operation address held => address = row.address → operation.Refuses (held.getD row)
  | .prepares address =>
      address.runId = row.id → (store.activeRunId address.merchantId).isSome = true
  | .calls runId _ => runId ≠ row.id
  | .nothing => True

theorem resets_of_perform :
    ((RunEffect.performs operation address held).apply now store).resets = store.resets ∧
      ((RunEffect.performs operation address held).apply now store).calls = store.calls := by
  cases performed : perform operation address held now store with
  | error failure => simp [RunEffect.apply, performed]
  | ok result =>
      rcases perform_eq_ok performed with ⟨_, written, _, _, _, _, final⟩
      simp [RunEffect.apply, performed, final, RunStore.put]

/-- The world is reset for an aborted run exactly when a preparation for it meets no active
run. -/
theorem notReset_iff (stored : row ∈ store.runs) (aborted : row.status = .aborted)
    (effect : RunEffect) (now : Instant) :
    (effect.apply now store).resetsFor row.id = store.resetsFor row.id ↔
      ∀ address, effect = .prepares address → address.runId = row.id →
        (store.activeRunId address.merchantId).isSome = true := by
  cases effect with
  | performs operation address held => simp [RunStore.resetsFor, resets_of_perform.1]
  | calls runId missionKey => simp [RunStore.resetsFor, RunEffect.apply]
  | nothing => simp [RunEffect.apply]
  | prepares address =>
      simp only [RunEffect.prepares.injEq, forall_eq']
      cases prepared : prepareWorld address.merchantId (some address.runId) store with
      | error failure =>
          simp only [RunEffect.apply, prepared, true_iff]
          intro _
          cases active : store.activeRunId address.merchantId with
          | some runId => rfl
          | none => simp [prepareWorld, active] at prepared
      | ok final =>
          rcases prepareWorld_eq_ok prepared with ⟨active, finalEq⟩
          have applied : (RunEffect.prepares address).apply now store = final := by
            simp only [RunEffect.apply, prepared]
          rw [applied, finalEq]
          by_cases sameRun : address.runId = row.id
          · have unclaimed : store.activeRunId address.merchantId = none :=
              active.resolve_right (sameRun ▸ activeRunId_ne stored aborted _)
            simp [RunStore.resetsFor, sameRun, unclaimed]
          · simp [RunStore.resetsFor, sameRun]

/-- The executor is called for a run exactly by a call. -/
theorem notCalled_iff (effect : RunEffect) (now : Instant) :
    (effect.apply now store).callsFor row.id = store.callsFor row.id ↔
      ∀ runId missionKey, effect = .calls runId missionKey → runId ≠ row.id := by
  cases effect with
  | performs operation address held => simp [RunStore.callsFor, resets_of_perform.2]
  | nothing => simp [RunEffect.apply]
  | prepares address =>
      cases prepared : prepareWorld address.merchantId (some address.runId) store with
      | error failure => simp [RunEffect.apply, prepared]
      | ok final =>
          simp [RunEffect.apply, prepared, (prepareWorld_eq_ok prepared).2, RunStore.callsFor]
  | calls runId missionKey =>
      by_cases sameRun : runId = row.id <;>
        simp [RunEffect.apply, RunStore.callsFor, sameRun]

end Closed

/-! ## Closed runs over a run of the system -/

/-- What an abort promises of the next step: the row of the run stays as it is, the step
neither resets the world on behalf of the run nor calls the executor for it, and an
operation on the run is refused for the documented reason and changes nothing. -/
structure Closed (world : RunWorld) (event : RunEvent) (row : SuiteRun) : Prop where
  kept : row ∈ (runSystem.step event world).shared.runs
  notReset : (runSystem.step event world).shared.resetsFor row.id = world.shared.resetsFor row.id
  notCalled : (runSystem.step event world).shared.callsFor row.id = world.shared.callsFor row.id
  refused : ∀ client input stage operation held, event = .act client input →
    world.clients client = some stage →
      stage.effect input = .performs operation row.address held →
        (∃ failure, perform operation row.address held input.now world.shared = .error failure ∧
          conflictReason failure = some operation.finishedReason) ∧
        (runSystem.step event world).shared = world.shared

/-- Every aborted run is closed. -/
def AbortHolds (world : RunWorld) (event : RunEvent) : Prop :=
  ∀ row ∈ world.shared.runs, row.status = .aborted → Closed world event row

/-- The guards before the step refuse whatever concerns an aborted run. -/
def Timely (world : RunWorld) (event : RunEvent) : Prop :=
  ∀ client input stage, event = .act client input → world.clients client = some stage →
    ∀ row ∈ world.shared.runs, row.status = .aborted →
      (stage.effect input).Spares world.shared row

theorem SuiteRun.terminal_of_aborted {row : SuiteRun} (aborted : row.status = .aborted) :
    row.isTerminal = true := by
  simp [SuiteRun.isTerminal, aborted]

/-- The shared store after a client's step. -/
theorem shared_act {world : RunWorld} {client : Nat} {input : RunInput} {stage : RunStage}
    (busy : world.clients client = some stage) :
    (runSystem.step (.act client input) world).shared =
      (stage.effect input).apply input.now world.shared := by
  simp only [System.step, busy]
  exact act_store stage input world.shared

/-- The start of another run keeps the rows, the resets and the calls. -/
theorem startRun_eq_ok {missionKeys : List String} {final : RunStore} {run : SuiteRun}
    (started : startRun address missionKeys now store = .ok (run, final)) :
    store.activeRunId address.merchantId = none ∧ run = createdRun address missionKeys now ∧
      ∃ runs, store.runs.insert? run = some runs ∧ final = { store with runs := runs } := by
  unfold startRun at started
  cases active : store.activeRunId address.merchantId with
  | some runId => simp [active] at started
  | none =>
      cases inserted : store.runs.insert? (createdRun address missionKeys now) with
      | none => simp [active, inserted] at started
      | some runs =>
          simp only [active, inserted, Except.ok.injEq, Prod.mk.injEq] at started
          rcases started with ⟨rfl, rfl⟩
          exact ⟨rfl, rfl, runs, inserted, rfl⟩

/-- What a step of the system does to the store: nothing, the effect of a stage, or the
start of another run. -/
theorem step_shared (world : RunWorld) (event : RunEvent) :
    (runSystem.step event world).shared = world.shared ∨
    (∃ client input stage, event = .act client input ∧ world.clients client = some stage ∧
      (runSystem.step event world).shared =
        (stage.effect input).apply input.now world.shared) ∨
    (∃ run runs, world.shared.runs.insert? run = some runs ∧
      (runSystem.step event world).shared = { world.shared with runs := runs }) := by
  cases event with
  | arrive client call =>
      left
      cases isFree : world.clients client <;> simp only [System.step, isFree]
  | crash client => exact Or.inl rfl
  | act client input =>
      cases busy : world.clients client with
      | none =>
          left
          simp only [System.step, busy]
      | some stage => exact Or.inr (Or.inl ⟨client, input, stage, rfl, busy, shared_act busy⟩)
  | outside start =>
      cases started : startRun start.address start.missionKeys start.now world.shared with
      | error failure =>
          left
          simp only [System.step, runSystem, started]
      | ok result =>
          rcases startRun_eq_ok started with ⟨_, _, runs, inserted, final⟩
          refine Or.inr (Or.inr ⟨result.1, runs, inserted, ?_⟩)
          simp only [System.step, runSystem, started, final]

/-- The row of a finished run is never written again. -/
theorem finished_kept {world : RunWorld} {row : SuiteRun} (stored : row ∈ world.shared.runs)
    (terminal : row.isTerminal = true) (event : RunEvent) :
    row ∈ (runSystem.step event world).shared.runs := by
  rcases step_shared world event with same | ⟨_, input, stage, _, _, applied⟩ |
    ⟨run, runs, inserted, started⟩
  · rw [same]
    exact stored
  · rw [applied]
    exact apply_keeps stored terminal _ input.now
  · rw [started]
    exact (Table.mem_insert?_iff inserted).mpr (Or.inl stored)

/-- A step keeps what the aborts of a state promise exactly when it is timely. -/
theorem abortHolds_iff_timely (world : RunWorld) (event : RunEvent) :
    AbortHolds world event ↔ Timely world event := by
  constructor
  · intro holds client input stage eventEq busy row stored aborted
    have closed := holds row stored aborted
    have shared := eventEq ▸ shared_act busy
    cases effectEq : stage.effect input with
    | nothing => trivial
    | performs operation address held =>
        rintro rfl
        rcases closed.refused client input stage operation held eventEq busy effectEq with
          ⟨⟨failure, refused, reason⟩, _⟩
        have terminal := SuiteRun.terminal_of_aborted aborted
        rcases perform_of_terminal stored terminal operation held input.now with
          ⟨other, otherRefused, documented⟩ | ⟨run, performed, _⟩
        · rw [refused, Except.error.injEq] at otherRefused
          exact documented.mpr (otherRefused ▸ reason)
        · rw [performed] at refused
          cases refused
    | prepares address =>
        have notReset := closed.notReset
        rw [shared, notReset_iff stored aborted] at notReset
        exact notReset address effectEq
    | calls runId missionKey =>
        have notCalled := closed.notCalled
        rw [shared, notCalled_iff] at notCalled
        exact notCalled runId missionKey effectEq
  · intro timely row stored aborted
    have terminal := SuiteRun.terminal_of_aborted aborted
    refine ⟨finished_kept stored terminal event, ?_, ?_, ?_⟩
    · rcases step_shared world event with same | ⟨client, input, stage, eventEq, busy, applied⟩ |
        ⟨run, runs, _, started⟩
      · rw [same]
      · rw [applied, notReset_iff stored aborted]
        intro address effectEq
        have spares := timely client input stage eventEq busy row stored aborted
        rwa [effectEq] at spares
      · rw [started]
        rfl
    · rcases step_shared world event with same | ⟨client, input, stage, eventEq, busy, applied⟩ |
        ⟨run, runs, _, started⟩
      · rw [same]
      · rw [applied, notCalled_iff]
        intro runId missionKey effectEq
        have spares := timely client input stage eventEq busy row stored aborted
        rwa [effectEq] at spares
      · rw [started]
        rfl
    · intro client input stage operation held eventEq busy effectEq
      have spares := timely client input stage eventEq busy row stored aborted
      rw [effectEq] at spares
      rcases perform_of_terminal stored terminal operation held input.now with
        ⟨failure, refused, documented⟩ | ⟨_, _, unrefused⟩
      · refine ⟨⟨failure, refused, documented.mp (spares rfl)⟩, ?_⟩
        rw [eventEq, shared_act busy, effectEq]
        simp only [RunEffect.apply, refused]
      · exact absurd (spares rfl) unrefused

/-- A suite that goes on has a copy with the same columns. -/
theorem row_of_suiteStep {step nextStep : SuiteStep} {input : RunInput} {run next : SuiteRun}
    (continues : (step.act input run store).2 = .continues next nextStep) :
    next.toBenchmarkRun = run.toBenchmarkRun := by
  have ofOperation : ∀ operation : RunOperation,
      operation ≠ .complete ∧ operation ≠ .abort → ∀ following : SuiteStep,
        (suiteOperation operation input.now run store fun held =>
          .continues held following).2 = .continues next nextStep →
            next.toBenchmarkRun = run.toBenchmarkRun := by
    intro operation ofMission following continues
    cases performed : perform operation run.address (some run) input.now store with
    | error failure => simp [suiteOperation, performed] at continues
    | ok result =>
        rcases perform_eq_ok performed with ⟨stored, written, _, worked, _, heldEq, _⟩
        simp only [suiteOperation, performed, SuiteOutcome.continues.injEq] at continues
        rw [← continues.1, heldEq]
        exact (rows_of_missionWork worked ofMission).1
  cases step with
  | admitting remaining =>
      cases remaining with
      | nil =>
          cases continues
          rfl
      | cons missionKey rest =>
          cases raises : input.raises <;> simp [SuiteStep.act, raises] at continues
          rw [continues.1]
  | preparing missionKey rest =>
      cases raises : input.raises <;> simp only [SuiteStep.act, raises] at continues
      · split at continues <;> cases continues
        rfl
      · cases continues
  | starting missionKey rest =>
      exact ofOperation (.startMission missionKey) ⟨nofun, nofun⟩ _ continues
  | calling missionKey rest =>
      cases raises : input.raises <;> simp [SuiteStep.act, raises] at continues
      rw [continues.1]
  | recording missionKey rest =>
      cases raises : input.raises <;> simp only [SuiteStep.act, raises] at continues
      · exact ofOperation (.record missionKey input.evaluation) ⟨nofun, nofun⟩ _ continues
      · cases continues
  | completing =>
      simp only [SuiteStep.act, suiteOperation] at continues
      split at continues <;> cases continues

/-- A suite that was loaded is running on the copy that its session holds. -/
theorem loadSuite_continues {input : RunInput} {run : SuiteRun} {step : SuiteStep}
    (loaded : loadSuite input address held store = .continues run step) :
    run.status = .running ∧ ∃ stored, store.find? address = some stored ∧ run = held.getD stored := by
  unfold loadSuite at loaded
  cases found : store.find? address with
  | none => simp [found] at loaded
  | some stored =>
      by_cases running : (held.getD stored).status = .running
      · cases raises : input.raises with
        | some raised => simp [found, requireRunning, running, raises] at loaded
        | none =>
            simp only [found, requireRunning, running, if_true, raises,
              SuiteOutcome.continues.injEq] at loaded
            rw [← loaded.1]
            exact ⟨running, stored, rfl, rfl⟩
      · simp [found, requireRunning, running] at loaded

/-- An abort closes its run in every state of a run of the system exactly when every step of
it is timely: after the abort no session whose copy is older prepares, starts, calls,
records, completes or aborts, and no session completes the run while missions of it are
open.  The row of the aborted run is never written again in any run. -/
theorem abort_closes_iff (store : RunStore) (events : List RunEvent) :
    ((∀ before event after, events = before ++ event :: after →
        AbortHolds (run runSystem.step (World.opening store) before) event) ↔
      Guarded runSystem.step Timely (World.opening store) events) ∧
    (∀ before after row, events = before ++ after →
      row ∈ (run runSystem.step (World.opening store) before).shared.runs →
        row.status = .aborted →
          row ∈ (run runSystem.step (World.opening store) events).shared.runs) := by
  constructor
  · rw [← guarded_congr abortHolds_iff_timely, guarded_iff_forall]
  · rintro before after row rfl stored aborted
    rw [run_append]
    have terminal := SuiteRun.terminal_of_aborted aborted
    exact @run_invariant_of_step _ _ _ _ (fun world : RunWorld => row ∈ world.shared.runs) after
      (fun _ event stored => finished_kept stored terminal event) stored

section Sample

def sampleInput : RunInput where
  now := 10
  evaluation := { status := .succeeded }

/-- A run of two missions. -/
def startedRuns : RunStore where
  runs := ⟨[createdRun ⟨1, 0⟩ ["first", "second"] 5], by decide⟩

/-- The suite takes its steps, and then an operator aborts the run from another session. -/
def abortedAfter (steps : Nat) : List RunEvent :=
  .arrive 0 { work := .suite, address := ⟨1, 0⟩, retains := false } ::
    (List.replicate steps (.act 0 sampleInput) ++
      [.arrive 1 { work := .operation .abort, address := ⟨1, 0⟩, retains := false },
        .act 1 sampleInput])

/-- The store after so many steps of the suite, and an abort. -/
def abortedWorld (steps : Nat) : RunWorld :=
  run runSystem.step (World.opening startedRuns) (abortedAfter steps)

/-- An abort between two missions does not keep the suite from resetting the world for the
next one, an abort before a mission starts is met by the trigger and not by the guard, and
an abort before the call does not keep the suite from calling the executor. -/
theorem executed_after_abort :
    ((abortedWorld 7).shared.runs.get? 1).map (fun row => row.status) = some .aborted ∧
      (abortedWorld 7).shared.resetsFor 1 = 1 ∧
      (runSystem.step (.act 0 sampleInput) (abortedWorld 7)).shared.resetsFor 1 = 2 ∧
      (abortedWorld 3).clients 0 =
        some (.executing (createdRun ⟨1, 0⟩ ["first", "second"] 5) (.starting "first" ["second"])) ∧
      perform (.startMission "first") ⟨1, 0⟩ (some (createdRun ⟨1, 0⟩ ["first", "second"] 5)) 10
          (abortedWorld 3).shared =
        .error (.integrityError "a mission result cannot be changed once its run has finished") ∧
      ((abortedWorld 4).shared.runs.get? 1).map (fun row => row.status) = some .aborted ∧
      (abortedWorld 4).shared.callsFor 1 = 0 ∧
      (runSystem.step (.act 0 sampleInput) (abortedWorld 4)).shared.callsFor 1 = 1 := by
  refine ⟨?_, ?_, ?_, rfl, rfl, ?_, ?_, ?_⟩ <;> decide +kernel

end Sample

end AgentRank.Benchmark
