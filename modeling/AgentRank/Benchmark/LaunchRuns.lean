import AgentRank.Benchmark.LaunchAgreement

/-!
# The runs of the dispatchers

A dispatcher creates a run before it can know whether its launch is still queued.  What it
cannot bind it aborts.  Only a dispatcher that dies in between leaves a run behind that no
launch names.
-/

namespace AgentRank.Benchmark

open Constraints Relational Store Transition

variable {store final : LaunchStore}

/-! ## Binding -/

variable {launch : EvaluationLaunch}

theorem violated_eq_none_iff :
    launch.violated = none ↔ ∀ check ∈ launchChecks, check.holds launch = true := by
  simp [EvaluationLaunch.violated]

/-- A queued launch has nothing of a run. -/
theorem queued_shape (checked : launch.violated = none) (queued : launch.status = .queued) :
    launch.runId = none ∧ launch.startedAt = none ∧ launch.settledAt = none ∧
      launch.failureCode = none := by
  have shape := violated_eq_none_iff.mp checked
  simp [launchChecks, queued] at shape
  rcases shape with ⟨_, _, _, _, ⟨⟨⟨unbound, unstarted⟩, unsettled⟩, unfailed⟩, _⟩
  exact ⟨unbound, unstarted, unsettled, unfailed⟩

/-- A bound launch passes the checks of the table. -/
theorem bind_unviolated {runId : Uuid} {now : Instant} (checked : launch.violated = none)
    (queued : launch.status = .queued) (timed : launch.requestedAt ≤ now)
    (baseline : launch.baselineRunId ≠ some runId) :
    (launch.bind runId now).violated = none := by
  rcases queued_shape checked queued with ⟨_, _, unsettled, unfailed⟩
  rw [violated_eq_none_iff] at checked ⊢
  simp [launchChecks, EvaluationLaunch.bind, queued] at checked ⊢
  refine ⟨checked.1, checked.2.1, checked.2.2.1, checked.2.2.2.1, ?_⟩
  simp [EvaluationLaunch.isSettled, unsettled, unfailed, timed, baseline]

theorem namesRun_of_openRun {runs : RunStore} {address : RunAddress}
    (isOpen : OpenRun runs address) :
    namesRun runs address.merchantId (some address.runId) = true := by
  rcases isOpen with ⟨row, member, sameAddress, _⟩
  exact Option.isSome_iff_exists.mpr ⟨row, find?_eq_some_iff.mpr ⟨member, sameAddress⟩⟩

/-- The write of a binding breaks no constraint. -/
theorem bind_written {run : SuiteRun} (agree : RecordsAgree store)
    (member : launch ∈ store.launches) (queued : launch.status = .queued)
    (merchant : launch.merchantId = run.merchantId)
    (baseline : launch.baselineRunId ≠ some run.id)
    (unnamed : ∀ other ∈ store.launches, other.runId ≠ some run.id)
    (isOpen : OpenRun store.runs run.address) :
    ∃ final, writeLaunch launch (launch.bind run.id store.clock) store = .ok final := by
  have checked := agree.checked launch member
  have unbound := (queued_shape checked queued).1
  have guarded : launchGuard store.runs launch (launch.bind run.id store.clock) = none := by
    simp [launchGuard, unbound, queued, launchTransitions, settlementGuard,
      EvaluationLaunch.bind]
  have alone : ∀ other ∈ store.launches, other.id ≠ launch.id →
      other.merchantId = launch.merchantId →
        other.isPending = false ∧ other.requestKey ≠ launch.requestKey := by
    intro other otherMem isOther sameMerchant
    constructor
    · by_contra pending
      rw [Bool.not_eq_false] at pending
      have same := agree.onePending other otherMem launch member sameMerchant pending
        (by simp [EvaluationLaunch.isPending, queued])
      exact isOther (congrArg EvaluationLaunch.id same)
    · intro sameKey
      have same := agree.oneRequest other otherMem launch member sameMerchant sameKey
      exact isOther (congrArg EvaluationLaunch.id same)
  have unbroken : brokenConstraint store (launch.bind run.id store.clock) = none := by
    rw [brokenConstraint_eq_none_iff]
    refine ⟨bind_unviolated checked queued (agree.timed launch member) baseline, ?_, ?_, ?_, ?_,
      (agree.named launch member).2⟩
    · rw [requestTaken, heldElsewhere_eq_false_iff]
      intro _ other otherMem isOther
      by_cases sameMerchant : other.merchantId = launch.merchantId
      · simp [EvaluationLaunch.bind, sameMerchant, (alone other otherMem isOther sameMerchant).2]
      · simp [EvaluationLaunch.bind, sameMerchant]
    · rw [runTaken, heldElsewhere_eq_false_iff]
      intro _ other otherMem _
      simp [EvaluationLaunch.bind, unnamed other otherMem]
    · rw [pendingTaken, heldElsewhere_eq_false_iff]
      intro _ other otherMem isOther
      by_cases sameMerchant : other.merchantId = launch.merchantId
      · simp [EvaluationLaunch.bind, (alone other otherMem isOther sameMerchant).1]
      · simp [EvaluationLaunch.bind, sameMerchant]
    · change namesRun store.runs launch.merchantId (some run.id) = true
      rw [merchant]
      exact namesRun_of_openRun isOpen
  refine ⟨{ store with launches := store.launches.set (launch.bind run.id store.clock) }, ?_⟩
  simp only [writeLaunch, guarded, unbroken]

variable {launchId : Uuid}

/-- The binding of a run that was just created ends in one of three ways. -/
theorem bindRun_outcome {run : SuiteRun} (agree : RecordsAgree store)
    (bindable : Bindable store launchId run) (halts : Option String) :
    (∃ launch final, bindRun launchId run.id halts store = .ok (launch, final)) ∨
    (∃ failureCode, bindRun launchId run.id halts store = .error (.halted failureCode)) ∨
    (∃ reason detail resource identifier, bindRun launchId run.id halts store =
      .error (.failed (.conflict reason detail resource identifier))) := by
  rcases bindable with ⟨⟨launch, member, rfl, merchant, baseline⟩, unnamed, isOpen⟩
  have locked : lockedLaunch launch.id none store = .ok (launch, launch) := by
    have found : store.launches.get? launch.id = some launch := Table.get?_key member
    simp only [lockedLaunch, found, Option.getD_none]
  by_cases queued : launch.status = .queued
  · cases halts with
    | some failureCode =>
        refine Or.inr (Or.inl ⟨failureCode, ?_⟩)
        simp [bindRun, locked, queued]
    | none =>
        rcases bind_written agree member queued merchant baseline unnamed isOpen with
          ⟨final, written⟩
        refine Or.inl ⟨launch.bind run.id store.clock, final, ?_⟩
        simp [bindRun, locked, queued, written]
  · have refused : bindRun launch.id run.id halts store =
        .error (.failed (launchConflict "launch_not_queued"
          s!"benchmark evaluation launch {launch.id} is {launch.status.value}" launch.id)) := by
      simp [bindRun, locked, queued]
    exact Or.inr (Or.inr ⟨_, _, _, _, refused⟩)

/-! ## Runs that are bound or aborted -/

/-- The run that a session has created and has not bound. -/
def LaunchStage.unboundRun : LaunchStage → Option Uuid
  | .binding _ run => some run.id
  | .closing _ address _ _ => some address.runId
  | _ => none

/-- A launch names the run, or it is aborted. -/
def BoundOrAborted (store : LaunchStore) (runId : Uuid) : Prop :=
  (∃ launch ∈ store.launches, launch.runId = some runId) ∨
    ∃ run ∈ store.runs.runs, run.id = runId ∧ run.status = .aborted

/-- The run of a dispatcher is bound or aborted, or the dispatcher is still at it. -/
def Accounted (world : LaunchWorld) (runId : Uuid) : Prop :=
  BoundOrAborted world.shared runId ∨
    ∃ client stage, world.clients client = some stage ∧ stage.unboundRun = some runId

/-- No dispatcher dies between the creation of its run and its binding or abort. -/
def Survives (world : LaunchWorld) (event : LaunchEvent) : Prop :=
  ∀ client stage, event = .crash client → world.clients client = some stage →
    stage.unboundRun = none

theorem BoundOrAborted.step {own : Option Uuid} {runId : Uuid}
    (holds : BoundOrAborted store runId) (effect : StageEffect own store final) :
    BoundOrAborted final runId := by
  rcases holds with ⟨launch, member, named⟩ | ⟨run, member, sameId, aborted⟩
  · rcases effect.launches.kept launch member with ⟨next, nextMem, follows, _⟩
    exact Or.inl ⟨next, nextMem, follows.bound runId named⟩
  · rcases effect.runs run member with ⟨next, nextMem, _, kept, _⟩
    have same := kept (SuiteRun.terminal_of_aborted aborted)
    exact Or.inr ⟨next, nextMem, by rw [same]; exact sameId, by rw [same]; exact aborted⟩

/-- An abort of a running run, on a copy that says so, aborts it. -/
theorem work_abort {run stored : SuiteRun} (isRunning : run.status = .running)
    (running : stored.status = .running) (now : Instant) :
    RunOperation.abort.work run stored now =
      .ok { held := closeRunAs .aborted now run, stored := closeRunAs .aborted now stored } := by
  simp [RunOperation.work, abortRun, finishRun, writeRun, runGuard, runTransitions, closeRunAs,
    SuiteRun.isTerminal, isRunning, running, bind, Except.bind, pure, Except.pure]

/-- The store after an abort of an open run, on a copy that says it is running. -/
theorem perform_abort {runs : RunStore} {address : RunAddress} {held : Option SuiteRun}
    (isOpen : OpenRun runs address) (running : ∀ copy, held = some copy → copy.status = .running)
    (now : Instant) :
    ∃ row ∈ ((RunEffect.performs .abort address held).apply now runs).runs,
      row.id = address.runId ∧ row.status = .aborted := by
  rcases isOpen with ⟨row, member, rfl, isRunning | isAborted⟩
  · have found : runs.find? row.address = some row := find?_eq_some_iff.mpr ⟨member, rfl⟩
    have copyRunning : (held.getD row).status = .running := by
      cases held with
      | none => exact isRunning
      | some copy => exact running copy rfl
    have performed : perform .abort row.address held now runs =
        .ok (closeRunAs .aborted now (held.getD row), runs.put (closeRunAs .aborted now row)) := by
      simp only [perform, found, work_abort copyRunning isRunning now]
    have sameId : row.id = (closeRunAs .aborted now row).id := rfl
    simp only [RunEffect.apply, performed]
    exact ⟨_, (Table.mem_set_iff member sameId).mpr (Or.inl rfl), rfl, rfl⟩
  · exact ⟨row, apply_keeps member (SuiteRun.terminal_of_aborted isAborted) _ now, rfl, isAborted⟩

/-- After its step a dispatcher has bound its run or aborted it, or it is still at it. -/
theorem act_unbound {stage : LaunchStage} {input : LaunchInput} {runId : Uuid}
    (agree : RecordsAgree store) (relies : stage.Relies store)
    (unbound : stage.unboundRun = some runId) :
    BoundOrAborted (stage.act input store).1 runId ∨
      ∃ next, (stage.act input store).2 = some next ∧ next.unboundRun = some runId := by
  cases stage with
  | binding launchId run =>
      cases unbound
      rcases bindRun_outcome agree relies.1 (input.raises.bind Raised.code?) with
        ⟨launch, final, bound⟩ | ⟨failureCode, halted⟩ | ⟨reason, detail, resource, identifier, refused⟩
      · left
        rcases bindRun_eq_ok bound with ⟨_, stored, member, _, _, launchEq, written⟩
        have finalEq : final = { store with launches := store.launches.set launch } := by
          unfold writeLaunch at written
          split at written
          · cases written
          · split at written <;> cases written
            rfl
        have sameId : stored.id = launch.id := by
          rw [launchEq]
          rfl
        simp only [LaunchStage.act, bindingStep, bound]
        refine Or.inl ⟨launch, ?_, by rw [launchEq]; rfl⟩
        rw [finalEq]
        exact (Table.mem_set_iff member sameId).mpr (Or.inl rfl)
      · right
        simp only [LaunchStage.act, bindingStep, halted]
        exact ⟨_, rfl, rfl⟩
      · right
        simp only [LaunchStage.act, bindingStep, refused]
        exact ⟨_, rfl, rfl⟩
  | closing launchId address held halted =>
      cases unbound
      have aborted := perform_abort relies.1 relies.2 input.now
      left
      cases performed : perform .abort address held input.now store.runs with
      | error failure =>
          simp only [RunEffect.apply, performed] at aborted
          simp only [LaunchStage.act, performed]
          exact Or.inr aborted
      | ok result =>
          simp only [RunEffect.apply, performed] at aborted
          simp only [LaunchStage.act, performed]
          exact Or.inr aborted
  | requesting _ | withdrawing _ _ | cancelling _ | inspecting _ _ | aborting _ _
  | settlingFor _ _ | claiming _ | measuring _ _ | preparing _ _ | starting _ _ | loading _ _
  | executing _ _ _ | halting _ _ | failing _ _ | settling _ => cases unbound

/-- A run that a step records was created by it, and its dispatcher goes on to bind it. -/
theorem act_dispatched (stage : LaunchStage) (input : LaunchInput) (store : LaunchStore) :
    (stage.act input store).1.dispatched = store.dispatched ∨
      ∃ launchId run, (stage.act input store).1.dispatched =
        store.dispatched ++ [(launchId, run.id)] ∧
          (stage.act input store).2 = some (.binding launchId run) := by
  have move := act_move stage input store
  generalize stage.act input store = result at move ⊢
  cases move with
  | writes written _ => exact Or.inl written.runs.2.2
  | moves _ => exact Or.inl rfl
  | starts _ => exact Or.inr ⟨_, _, rfl, rfl⟩

variable {world : LaunchWorld}

/-- After a step in which no dispatcher dies at it, every run of a dispatcher is accounted
for. -/
theorem accounted_step {event : LaunchEvent} (obeys : System.Obeys launchDiscipline world)
    (accounted : ∀ pair ∈ world.shared.dispatched, Accounted world pair.2)
    (survives : Survives world event) :
    ∀ pair ∈ (launchSystem.step event world).shared.dispatched,
      Accounted (launchSystem.step event world) pair.2 := by
  cases event with
  | arrive client call =>
      cases isFree : world.clients client with
      | some stage => simpa only [System.step, isFree] using accounted
      | none =>
          simp only [System.step, isFree]
          intro pair member
          rcases accounted pair member with done | ⟨other, stage, busy, unbound⟩
          · exact Or.inl done
          · refine Or.inr ⟨other, stage, ?_, unbound⟩
            have isOther : other ≠ client := by
              rintro rfl
              rw [isFree] at busy
              cases busy
            exact (if_neg isOther).trans busy
  | crash client =>
      intro pair member
      rcases accounted pair member with done | ⟨other, stage, busy, unbound⟩
      · exact Or.inl done
      · refine Or.inr ⟨other, stage, ?_, unbound⟩
        have isOther : other ≠ client := by
          rintro rfl
          rw [survives other stage rfl busy] at unbound
          cases unbound
        exact (if_neg isOther).trans busy
  | outside tick =>
      intro pair member
      rcases accounted pair member with done | still
      · exact Or.inl (done.step (tick_effect tick world.shared))
      · exact Or.inr still
  | act client input =>
      cases busy : world.clients client with
      | none => simpa only [System.step, busy] using accounted
      | some stage =>
          have effect := act_effect stage input world.shared
          have ofPair : ∀ pair ∈ world.shared.dispatched, Accounted
              { shared := (stage.act input world.shared).1
                clients := world.place client (stage.act input world.shared).2 } pair.2 := by
            intro pair member
            rcases accounted pair member with done | ⟨other, otherStage, otherBusy, unbound⟩
            · exact Or.inl (done.step effect)
            · by_cases isActor : other = client
              · rw [isActor, busy, Option.some.injEq] at otherBusy
                rw [← otherBusy] at unbound
                rcases act_unbound obeys.shared (obeys.relies client stage busy) unbound with
                  done | ⟨next, leads, still⟩
                · exact Or.inl done
                · exact Or.inr ⟨client, next, (if_pos rfl).trans leads, still⟩
              · exact Or.inr ⟨other, otherStage, (if_neg isActor).trans otherBusy, unbound⟩
          intro pair member
          simp only [System.step, busy] at member ⊢
          rcases act_dispatched stage input world.shared with same |
            ⟨launchId, run, recorded, leads⟩
          · exact ofPair pair (same ▸ member)
          · have member : pair ∈ world.shared.dispatched ++ [(launchId, run.id)] :=
              recorded ▸ member
            rcases List.mem_append.mp member with earlier | isNew
            · exact ofPair pair earlier
            · rw [List.mem_singleton.mp isNew]
              exact Or.inr ⟨client, .binding launchId run, (if_pos rfl).trans leads, rfl⟩

/-! ## What moves a queued launch -/

/-- A step that takes a launch out of the queue: it is withdrawn, cancelled, refused for its
plan, or bound with the capacity admitting it. -/
def LaunchStage.Dequeues (stage : LaunchStage) (input : LaunchInput) (launchId : Uuid) : Prop :=
  match stage with
  | .withdrawing _ withdrawn => withdrawn = launchId
  | .cancelling cancelled => cancelled = launchId
  | .claiming _ => input.refused.isSome = true
  | .measuring measured _ => measured = launchId ∧ input.refused.isSome = true
  | .binding bound _ => bound = launchId ∧ input.raises.bind Raised.code? = none
  | _ => False

/-- A request keeps every launch. -/
theorem requestLaunch_keeps {request : LaunchRequest} {facts : PlanFacts}
    {made : EvaluationLaunch}
    (requested : requestLaunch launchId request facts store = .ok (made, final))
    (member : launch ∈ store.launches) : launch ∈ final.launches := by
  rcases requestLaunch_eq_ok requested with rfl | inserted
  · exact member
  · unfold insertLaunch at inserted
    split at inserted
    · cases inserted
    · split at inserted
      · cases inserted
      · split at inserted <;> cases inserted
        next isNew => exact (Table.mem_insert?_iff isNew).mpr (Or.inl member)

section Queued

variable {launch next : EvaluationLaunch}

/-- A write of another launch leaves a launch as it was. -/
theorem same_of_write {binds : Option Uuid} (written : LaunchWrite launchId binds store final)
    (member : launch ∈ store.launches) (isOther : launch.id ≠ launchId)
    (nextMem : next ∈ final.launches) (sameId : next.id = launch.id) : next = launch :=
  Table.eq_of_key_eq (written.elsewhere nextMem (sameId ▸ isOther)) member sameId

/-- A last transaction that writes no launch but one leaves every other as it was. -/
theorem same_of_lastly {outcome : Except Failure LaunchStore}
    (writes : ∀ final, outcome = .ok final → ∃ binds, LaunchWrite launchId binds store final)
    (member : launch ∈ store.launches) (nextMem : next ∈ (lastly outcome store).1.launches)
    (sameId : next.id = launch.id) :
    next = launch ∨ launchId = launch.id := by
  cases outcome with
  | error failure => exact Or.inl (Table.eq_of_key_eq nextMem member sameId)
  | ok final =>
      rcases writes final rfl with ⟨_, written⟩
      by_cases isAt : launchId = launch.id
      · exact Or.inr isAt
      · exact Or.inl (same_of_write written member (Ne.symm isAt) nextMem sameId)

theorem not_leftQueue (member : launch ∈ store.launches) (queued : launch.status = .queued) :
    ¬LeftQueue store launch.id := by
  rintro ⟨other, otherMem, sameId, notQueued⟩
  rw [Table.eq_of_key_eq otherMem member sameId] at notQueued
  exact notQueued queued

/-- No other step takes a launch out of the queue. -/
theorem act_queued {stage : LaunchStage} {input : LaunchInput} (relies : stage.Relies store)
    (member : launch ∈ store.launches) (queued : launch.status = .queued)
    (nextMem : next ∈ (stage.act input store).1.launches) (sameId : next.id = launch.id) :
    next = launch ∨ stage.Dequeues input launch.id := by
  have unchanged : next ∈ store.launches → next = launch ∨ stage.Dequeues input launch.id :=
    fun nextMem => Or.inl (Table.eq_of_key_eq nextMem member sameId)
  cases stage with
  | requesting request =>
      cases requested : requestLaunch input.newId request input.facts store with
      | error failure =>
          simp only [LaunchStage.act, requested, Except.map, lastly] at nextMem
          exact unchanged nextMem
      | ok result =>
          simp only [LaunchStage.act, requested, Except.map, lastly] at nextMem
          have kept := requestLaunch_keeps requested member
          exact Or.inl (Table.eq_of_key_eq nextMem kept sameId)
  | withdrawing merchantId launchId =>
      exact same_of_lastly (fun _ committed => ⟨_, withdrawLaunch_write committed⟩) member nextMem
        sameId
  | cancelling launchId =>
      exact same_of_lastly (fun _ committed => ⟨_, cancelQueued_write committed⟩) member nextMem
        sameId
  | settlingFor runId held =>
      simp only [LaunchStage.act] at nextMem
      cases committed : settleForTerminalRun runId held store with
      | error failure =>
          rw [committed] at nextMem
          exact unchanged nextMem
      | ok final =>
          rw [committed] at nextMem
          rcases settleForTerminalRun_write committed with same | ⟨bound, boundMem, executing, written⟩
          · rw [same] at nextMem
            exact unchanged nextMem
          · refine Or.inl (same_of_write written member ?_ nextMem sameId)
            intro isBound
            rw [Table.eq_of_key_eq member boundMem isBound, executing] at queued
            cases queued
  | claiming worker =>
      cases claimed : claimNext worker store with
      | none =>
          simp only [LaunchStage.act, claimed] at nextMem
          exact unchanged nextMem
      | some found =>
          cases refused : input.refused with
          | none =>
              simp only [LaunchStage.act, claimed, refused] at nextMem
              exact unchanged nextMem
          | some failureCode => exact Or.inr (by simp [LaunchStage.Dequeues, refused])
  | measuring launchId merchantId =>
      cases refused : input.refused with
      | none =>
          simp only [LaunchStage.act, refused] at nextMem
          split at nextMem <;> exact unchanged nextMem
      | some failureCode =>
          simp only [LaunchStage.act, refused] at nextMem
          rcases same_of_lastly (fun _ committed => ⟨_, settleFailed_write committed⟩) member
            nextMem sameId with same | isAt
          · exact Or.inl same
          · exact Or.inr ⟨isAt, by rw [refused]; rfl⟩
  | binding launchId run =>
      cases bound : bindRun launchId run.id (input.raises.bind Raised.code?) store with
      | ok result =>
          simp only [LaunchStage.act, bindingStep, bound] at nextMem
          by_cases isAt : launchId = launch.id
          · exact Or.inr ⟨isAt, (bindRun_eq_ok bound).1⟩
          · exact Or.inl (same_of_write (bindRun_write bound) member (Ne.symm isAt) nextMem sameId)
      | error raised =>
          apply unchanged
          simp only [LaunchStage.act, bindingStep, bound] at nextMem
          cases raised with
          | halted failureCode => exact nextMem
          | failed failure => cases failure <;> exact nextMem
  | failing failed failureCode =>
      rcases same_of_lastly (fun _ committed => ⟨_, settleFailed_write committed⟩) member nextMem
        sameId with same | isAt
      · exact Or.inl same
      · have left : LeftQueue store launch.id := isAt ▸ relies
        exact absurd left (not_leftQueue member queued)
  | settling settled =>
      rcases same_of_lastly (fun _ committed => ⟨_, settleCompleted_write committed⟩) member nextMem
        sameId with same | isAt
      · exact Or.inl same
      · have left : LeftQueue store launch.id := isAt ▸ relies
        exact absurd left (not_leftQueue member queued)
  | inspecting address aborts =>
      apply unchanged
      simp only [LaunchStage.act] at nextMem
      repeat' split at nextMem
      all_goals exact nextMem
  | aborting address held =>
      apply unchanged
      simp only [LaunchStage.act] at nextMem
      split at nextMem <;> exact nextMem
  | preparing launchId merchantId =>
      apply unchanged
      simp only [LaunchStage.act] at nextMem
      split at nextMem <;> exact nextMem
  | starting launchId merchantId =>
      apply unchanged
      simp only [LaunchStage.act, startingStep] at nextMem
      split at nextMem
      · exact nextMem
      · cases launchId <;> exact nextMem
  | closing launchId address held halted =>
      apply unchanged
      simp only [LaunchStage.act] at nextMem
      split at nextMem <;> exact nextMem
  | halting launchId failureCode =>
      apply unchanged
      simp only [LaunchStage.act] at nextMem
      repeat' split at nextMem
      all_goals exact nextMem
  | loading bound run => exact unchanged nextMem
  | executing bound run step => exact unchanged nextMem

end Queued

/-! ## Every run -/

/-- What the launches and the runs of a store agree on. -/
structure LaunchesAgree (store : LaunchStore) : Prop where
  onePending : ∀ first ∈ store.launches, ∀ second ∈ store.launches,
    first.merchantId = second.merchantId → first.isPending = true → second.isPending = true →
      first = second
  oneLaunch : ∀ first ∈ store.launches, ∀ second ∈ store.launches, ∀ runId,
    first.runId = some runId → second.runId = some runId → first = second
  completed : ∀ launch ∈ store.launches, launch.status = .completed →
    ∃ run ∈ store.runs.runs, launch.runId = some run.id ∧ run.status = .completed
  failed : ∀ launch ∈ store.launches, launch.status = .failed → ∀ runId,
    launch.runId = some runId → ∃ run ∈ store.runs.runs, run.id = runId ∧ run.status = .aborted

/-- The event takes the launch out of the queue. -/
def Leaves (world : LaunchWorld) (event : LaunchEvent) (launchId : Uuid) : Prop :=
  ∃ client input stage, event = .act client input ∧ world.clients client = some stage ∧
    stage.Dequeues input launchId

/-- A queued launch is as it was after the event, or the event takes it out of the queue. -/
def QueueHolds (world : LaunchWorld) (event : LaunchEvent) : Prop :=
  ∀ launch ∈ world.shared.launches, launch.status = .queued →
    ∀ next ∈ (launchSystem.step event world).shared.launches, next.id = launch.id →
      next = launch ∨ Leaves world event launch.id

theorem RecordsAgree.launches (agree : RecordsAgree store) : LaunchesAgree store where
  onePending := agree.onePending
  oneLaunch := agree.oneLaunch
  completed launch member isCompleted := by
    have settled := agree.settled launch member
    have found : store.runs.statusOf launch.runId = some .completed := by
      by_contra other
      simp [settlementGuard, isCompleted, other] at settled
    cases named : launch.runId with
    | none =>
        rw [named] at found
        cases found
    | some runId =>
        rw [named, statusOf_eq_some_iff] at found
        rcases found with ⟨run, runMem, rfl, status⟩
        exact ⟨run, runMem, rfl, status⟩
  failed launch member isFailed runId named := by
    have settled := agree.settled launch member
    apply statusOf_eq_some_iff.mp
    by_contra other
    simp [settlementGuard, isFailed, named, other] at settled

theorem recordsAgree_opening (runs : RunStore) (clock : Instant) :
    RecordsAgree (LaunchStore.opening runs clock) := by
  constructor <;> exact fun _ member => nomatch member

/-- Whoever acts, the launches move as they may. -/
theorem step_launches (event : LaunchEvent) (world : LaunchWorld) :
    LaunchStep world.shared (launchSystem.step event world).shared := by
  cases event with
  | arrive client call =>
      cases isFree : world.clients client <;>
        exact .of_same (by simp only [System.step, isFree])
  | crash client => exact .of_same rfl
  | outside tick => exact (tick_effect tick world.shared).launches
  | act client input =>
      cases busy : world.clients client with
      | none => exact .of_same (by simp only [System.step, busy])
      | some stage =>
          simp only [System.step, busy]
          exact (act_effect stage input world.shared).launches

theorem queueHolds_of_obeys (obeys : System.Obeys launchDiscipline world) (event : LaunchEvent) :
    QueueHolds world event := by
  intro launch member queued next nextMem sameId
  have unchanged : next ∈ world.shared.launches → next = launch ∨ Leaves world event launch.id :=
    fun nextMem => Or.inl (Table.eq_of_key_eq nextMem member sameId)
  cases event with
  | arrive client call =>
      cases isFree : world.clients client <;> simp only [System.step, isFree] at nextMem <;>
        exact unchanged nextMem
  | crash client => exact unchanged nextMem
  | outside tick => exact unchanged nextMem
  | act client input =>
      cases busy : world.clients client with
      | none =>
          simp only [System.step, busy] at nextMem
          exact unchanged nextMem
      | some stage =>
          simp only [System.step, busy] at nextMem
          rcases act_queued (obeys.relies client stage busy) member queued nextMem sameId with
            same | dequeues
          · exact Or.inl same
          · exact Or.inr ⟨client, input, stage, rfl, busy, dequeues⟩

/-- What became of a launch over a run. -/
theorem launchFollows_of_run (events : List LaunchEvent) (world : LaunchWorld) :
    ∀ launch ∈ world.shared.launches,
      ∃ next ∈ (run launchSystem.step world events).shared.launches, LaunchFollows launch next := by
  induction events generalizing world with
  | nil => exact fun launch member => ⟨launch, member, LaunchFollows.refl launch⟩
  | cons event rest ih =>
      intro launch member
      rcases (step_launches event world).kept launch member with ⟨middle, middleMem, earlier, _⟩
      rcases ih (launchSystem.step event world) middle middleMem with ⟨next, nextMem, later⟩
      exact ⟨next, nextMem, earlier.trans later⟩

/-- Where no dispatcher dies at it, every run of a dispatcher is accounted for. -/
theorem accounted_of_run {events : List LaunchEvent} (obeys : System.Obeys launchDiscipline world)
    (accounted : ∀ pair ∈ world.shared.dispatched, Accounted world pair.2)
    (survives : Guarded launchSystem.step Survives world events) :
    ∀ pair ∈ (run launchSystem.step world events).shared.dispatched,
      Accounted (run launchSystem.step world events) pair.2 := by
  induction events generalizing world with
  | nil => exact accounted
  | cons event rest ih =>
      have allowed := (System.guarded_free launchSystem world [event]).1
      exact ih (obeys.step launchSystem_keeps allowed)
        (accounted_step obeys accounted survives.1) survives.2

/-- Whatever merchants, operators and dispatchers do, and whenever they die: the launches and
runs agree, a launch moves along its ways and stays as it is once it is settled, and only a
withdrawal, a cancellation, a refused plan or an admitted binding takes it out of the queue.
A run that a dispatcher created is bound or aborted, unless the dispatcher is still at it or
has died at it. -/
theorem launches_agree (runs : RunStore) (clock : Instant) (events : List LaunchEvent) :
    let opening := World.opening (LaunchStore.opening runs clock)
    let world := run launchSystem.step opening events
    LaunchesAgree world.shared ∧
    (∀ event, LaunchStep world.shared (launchSystem.step event world).shared ∧
      QueueHolds world event) ∧
    (∀ later, ∀ launch ∈ world.shared.launches,
      ∃ next ∈ (run launchSystem.step world later).shared.launches, LaunchFollows launch next) ∧
    (Guarded launchSystem.step Survives opening events →
      ∀ pair ∈ world.shared.dispatched, Accounted world pair.2) := by
  intro opening world
  have opens : System.Obeys launchDiscipline opening :=
    System.obeys_opening (recordsAgree_opening runs clock)
  have obeys : System.Obeys launchDiscipline world :=
    opens.run launchSystem_keeps (System.guarded_free launchSystem opening events)
  refine ⟨obeys.shared.launches, ?_, ?_, ?_⟩
  · exact fun event => ⟨step_launches event world, queueHolds_of_obeys obeys event⟩
  · exact fun later => launchFollows_of_run later world
  · exact accounted_of_run opens (fun _ member => nomatch member)

section Sample

def sampleFacts : PlanFacts where
  representationId := none
  compilerRunId := none
  sourceSnapshotId := some 20
  environmentId := 21
  buyerProfile := .referenceBuyer
  executorKind := "reference"
  maxProviderRequests := none
  baselineRunId := none
  digest := "digest"

def sampleRequest : LaunchRequest where
  merchantId := 1
  purpose := .initial
  representationId := none
  requestKey := "first-evaluation"
  planDigest := "digest"

def launchInput (newId : Uuid) (raises : Option Raised) : LaunchInput where
  now := 10
  raises := raises
  evaluation := { status := .succeeded }
  newId := newId
  facts := sampleFacts
  missionKeys := ["first"]

/-- A merchant requests its launch `2`, and a dispatcher creates the run `3` for it. -/
def dispatchedEvents : List LaunchEvent :=
  [.arrive 0 (.request sampleRequest), .act 0 (launchInput 2 none),
    .arrive 1 (.dispatch { merchantId := 1, environmentId := 21, executorKinds := ["reference"] }),
    .act 1 (launchInput 3 none), .act 1 (launchInput 3 none), .act 1 (launchInput 3 none),
    .act 1 (launchInput 3 none)]

/-- The capacity admission halts the binding, and the dispatcher closes its run. -/
def haltedEvents : List LaunchEvent :=
  dispatchedEvents ++
    [.act 1 (launchInput 3 (some (.halted "capacity_reached"))), .act 1 (launchInput 3 none)]

def launchWorld (events : List LaunchEvent) : LaunchWorld :=
  run launchSystem.step (World.opening (LaunchStore.opening { runs := Table.empty } 5)) events

/-- The dispatcher dies before it binds its run.  Nobody is at work any more, the run is
running, and no launch names it. -/
theorem running_after_crash :
    (launchWorld (dispatchedEvents ++ [.crash 1])).shared.dispatched = [(2, 3)] ∧
      (∀ client, (launchWorld (dispatchedEvents ++ [.crash 1])).clients client = none) ∧
      ((launchWorld (dispatchedEvents ++ [.crash 1])).shared.runs.runs.get? 3).map
        (fun run => run.status) = some .running ∧
      (launchWorld (dispatchedEvents ++ [.crash 1])).shared.launches.rows.map
        (fun launch => (launch.id, launch.status, launch.runId)) = [(2, .queued, none)] := by
  refine ⟨by decide +kernel, ?_, by decide +kernel, by decide +kernel⟩
  rintro (_ | _ | client) <;> rfl

/-- A halted binding leaves the launch in the queue, and its run is aborted. -/
theorem launches_agree_halted :
    (launchWorld haltedEvents).shared.launches.rows.map
        (fun launch => (launch.id, launch.status, launch.runId)) = [(2, .queued, none)] ∧
      (launchWorld haltedEvents).shared.dispatched = [(2, 3)] ∧
      Accounted (launchWorld haltedEvents) 3 := by
  have recorded : (launchWorld haltedEvents).shared.dispatched = [(2, 3)] := by decide +kernel
  refine ⟨by decide +kernel, recorded, ?_⟩
  have survives : Guarded launchSystem.step Survives
      (World.opening (LaunchStore.opening { runs := Table.empty } 5)) haltedEvents := by
    simp [haltedEvents, dispatchedEvents, Guarded, Survives]
  refine (launches_agree { runs := Table.empty } 5 haltedEvents).2.2.2 survives (2, 3) ?_
  change (2, 3) ∈ (launchWorld haltedEvents).shared.dispatched
  rw [recorded]
  exact List.mem_singleton.mpr rfl

end Sample

end AgentRank.Benchmark
