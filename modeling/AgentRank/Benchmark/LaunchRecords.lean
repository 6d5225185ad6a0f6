import AgentRank.Benchmark.RunClosure
import AgentRank.Benchmark.Launch

/-!
# What a write does to the launches

Every service writes at most one launch, past the trigger and the constraints of the table.
This module says once what such a write can do, and what the records of a store agree on
whatever was written.
-/

namespace AgentRank.Benchmark

open Relational Store

/-! ## One write -/

/-- The columns that are frozen at admission. -/
def Frozen (old new : EvaluationLaunch) : Prop :=
  new = { old with
    status := new.status
    runId := new.runId
    failureCode := new.failureCode
    startedAt := new.startedAt
    settledAt := new.settledAt }

/-- The ways of a launch. -/
def launchMoves : List (EvaluationLaunchStatus × EvaluationLaunchStatus) :=
  [(.queued, .executing), (.queued, .failed), (.executing, .completed), (.executing, .failed)]

/-- Nothing was written, or one launch was: it passes the constraints, stands beside the
others, and is new and queued or succeeds the row under its key past the trigger.  Only a
binding names a run. -/
inductive LaunchWrite (launchId : Uuid) (binds : Option Uuid) (store : LaunchStore) :
    LaunchStore → Prop
  | kept : LaunchWrite launchId binds store store
  | wrote {new : EvaluationLaunch} {launches : Table EvaluationLaunch} (isAt : new.id = launchId)
      (unbroken : brokenConstraint store new = none)
      (settled : settlementGuard store.runs new = none)
      (rows : ∀ launch, launch ∈ launches ↔
        launch = new ∨ launch ∈ store.launches ∧ launch.id ≠ new.id)
      (origin : (new.status = .queued ∧ new.runId = none ∧ new.requestedAt ≤ store.clock ∧
          ∀ launch ∈ store.launches, launch.id ≠ new.id) ∨
        ∃ old ∈ store.launches, Frozen old new ∧ launchGuard store.runs old new = none ∧
          (old.status, new.status) ∈ launchMoves ∧
            (new.runId = old.runId ∨ new.runId = binds)) :
      LaunchWrite launchId binds store { store with launches := launches }

variable {store final : LaunchStore}

variable {new old : EvaluationLaunch}

theorem settlementGuard_of_launchGuard {runs : RunStore}
    (guarded : launchGuard runs old new = none) : settlementGuard runs new = none := by
  unfold launchGuard at guarded
  split at guarded
  · cases guarded
  · split at guarded
    · cases guarded
    · exact guarded

theorem transition_of_launchGuard {runs : RunStore} (guarded : launchGuard runs old new = none) :
    (old.status, new.status) ∈ launchTransitions := by
  unfold launchGuard at guarded
  split at guarded
  · cases guarded
  · split at guarded
    · cases guarded
    · next listed => exact not_not.mp listed

/-- A transition that the trigger allows moves the launch, unless it was written as it was. -/
theorem move_of_transition {old new : EvaluationLaunchStatus}
    (transition : (old, new) ∈ launchTransitions) (notQueued : new ≠ .queued)
    (executing : new = .executing → old = .queued) : (old, new) ∈ launchMoves := by
  cases old <;> cases new <;> simp_all [launchTransitions, launchMoves]

variable {binds : Option Uuid}

theorem writeLaunch_write (stored : old ∈ store.launches) (frozen : Frozen old new)
    (notQueued : new.status ≠ .queued)
    (executing : new.status = .executing → old.status = .queued)
    (named : new.runId = old.runId ∨ new.runId = binds)
    (written : writeLaunch old new store = .ok final) : LaunchWrite old.id binds store final := by
  unfold writeLaunch at written
  cases guarded : launchGuard store.runs old new with
  | some message => simp [guarded] at written
  | none =>
      cases unbroken : brokenConstraint store new with
      | some name => simp [guarded, unbroken] at written
      | none =>
          simp only [guarded, unbroken, Except.ok.injEq] at written
          rw [← written]
          have sameId : old.id = new.id := by rw [frozen]
          refine .wrote sameId.symm unbroken (settlementGuard_of_launchGuard guarded) ?_
            (Or.inr ⟨old, stored, frozen, guarded, move_of_transition
              (transition_of_launchGuard guarded) notQueued executing, named⟩)
          exact fun launch => Table.mem_set_iff stored sameId

theorem insertLaunch_write (timed : new.requestedAt ≤ store.clock) (unbound : new.runId = none)
    (inserted : insertLaunch new store = .ok final) :
    LaunchWrite new.id none store final := by
  unfold insertLaunch at inserted
  cases guarded : launchInsertGuard new with
  | some message => simp [guarded] at inserted
  | none =>
      cases unbroken : brokenConstraint store new with
      | some name => simp [guarded, unbroken] at inserted
      | none =>
          cases result : store.launches.insert? new with
          | none => simp [guarded, unbroken, result] at inserted
          | some launches =>
              simp only [guarded, unbroken, result, Except.ok.injEq] at inserted
              rw [← inserted]
              have queued : new.status = .queued := by
                by_contra other
                simp [launchInsertGuard, other] at guarded
              have fresh := (Table.insert?_eq_some_iff.mp result).1
              refine .wrote rfl unbroken (by simp [settlementGuard, queued]) ?_
                (Or.inl ⟨queued, unbound, timed, fresh⟩)
              intro launch
              rw [Table.mem_insert?_iff result]
              constructor
              · rintro (member | rfl)
                · exact Or.inr ⟨member, fresh launch member⟩
                · exact Or.inl rfl
              · rintro (rfl | ⟨member, _⟩)
                · exact Or.inr rfl
                · exact Or.inl member

variable {launchId : Uuid}

theorem LaunchWrite.runs (written : LaunchWrite launchId binds store final) :
    final.runs = store.runs ∧ final.clock = store.clock ∧ final.dispatched = store.dispatched := by
  cases written <;> exact ⟨rfl, rfl, rfl⟩

variable {launch : EvaluationLaunch}

/-- A write does not concern the launches under other keys. -/
theorem LaunchWrite.elsewhere (written : LaunchWrite launchId binds store final)
    (member : launch ∈ final.launches) (isOther : launch.id ≠ launchId) :
    launch ∈ store.launches := by
  cases written with
  | kept => exact member
  | wrote isAt _ _ rows _ =>
      rcases (rows launch).mp member with rfl | ⟨old, _⟩
      · exact absurd isAt isOther
      · exact old

variable {runId : Uuid}

/-- A run is named by a launch after a write when it was named before, or is the one that
the write binds. -/
theorem LaunchWrite.names (written : LaunchWrite launchId binds store final)
    (member : launch ∈ final.launches) (named : launch.runId = some runId) :
    (∃ earlier ∈ store.launches, earlier.runId = some runId) ∨ binds = some runId := by
  cases written with
  | kept => exact Or.inl ⟨launch, member, named⟩
  | wrote _ _ _ rows origin =>
      rcases (rows launch).mp member with rfl | ⟨old, _⟩
      · rcases origin with ⟨_, unbound, _⟩ | ⟨old, oldMem, _, _, _, same | bound⟩
        · rw [unbound] at named
          cases named
        · exact Or.inl ⟨old, oldMem, same.symm.trans named⟩
        · exact Or.inr (bound.symm.trans named)
      · exact Or.inl ⟨launch, old, named⟩

/-! ## The services -/

theorem frozen_bind (launch : EvaluationLaunch) (runId : Uuid) (now : Instant) :
    Frozen launch (launch.bind runId now) :=
  rfl

theorem frozen_complete (launch : EvaluationLaunch) (now : Instant) :
    Frozen launch (launch.complete now) :=
  rfl

theorem frozen_fail (launch : EvaluationLaunch) (failureCode : String) (now : Instant) :
    Frozen launch (launch.fail failureCode now) :=
  rfl

/-- A request is answered with what is stored, or stores a launch. -/
theorem requestLaunch_eq_ok {request : LaunchRequest} {facts : PlanFacts}
    (requested : requestLaunch launchId request facts store = .ok (launch, final)) :
    store = final ∨
      insertLaunch (admittedLaunch launchId request facts store) store = .ok final := by
  unfold requestLaunch at requested
  cases found : launchByRequestKey request store with
  | some existing =>
      cases same : sameRequest existing request <;>
        simp only [found, same, Except.map, Except.ok.injEq, Prod.mk.injEq, reduceCtorEq]
          at requested
      exact Or.inl requested.2
  | none =>
      cases refused : launchRefusal request facts store with
      | some failure => simp [found, refused] at requested
      | none =>
          cases inserted : insertLaunch (admittedLaunch launchId request facts store) store with
          | error failure => simp [found, refused, inserted, Except.map] at requested
          | ok result =>
              simp only [found, refused, inserted, Except.map, Except.ok.injEq,
                Prod.mk.injEq] at requested
              rw [requested.2]
              exact Or.inr rfl

theorem requestLaunch_write {request : LaunchRequest} {facts : PlanFacts}
    (requested : requestLaunch launchId request facts store = .ok (launch, final)) :
    LaunchWrite launchId none store final := by
  rcases requestLaunch_eq_ok requested with rfl | inserted
  · exact .kept
  · exact insertLaunch_write (Int.le_refl _) rfl inserted

theorem withdrawLaunch_write {merchantId : Uuid}
    (withdrawn : withdrawLaunch merchantId launchId store = .ok final) :
    LaunchWrite launchId none store final := by
  unfold withdrawLaunch at withdrawn
  cases found : (store.launches.get? launchId).filter fun launch =>
      launch.merchantId = merchantId with
  | none => simp [found] at withdrawn
  | some launch =>
      rcases Table.get?_eq_some_iff.mp (Option.filter_eq_some_iff.mp found).1 with ⟨stored, rfl⟩
      simp only [found] at withdrawn
      split at withdrawn
      · cases withdrawn
      · split at withdrawn
        · cases withdrawn
        · exact writeLaunch_write stored (frozen_fail _ _ _) (by rintro ⟨⟩) (by rintro ⟨⟩) (Or.inl rfl) withdrawn

variable {held : Option EvaluationLaunch}

theorem lockedLaunch_eq_ok {stored : EvaluationLaunch}
    (locked : lockedLaunch launchId held store = .ok (launch, stored)) :
    stored ∈ store.launches ∧ stored.id = launchId ∧ launch = held.getD stored := by
  unfold lockedLaunch at locked
  cases found : store.launches.get? launchId with
  | none => simp [found] at locked
  | some row =>
      simp only [found, Except.ok.injEq, Prod.mk.injEq] at locked
      rcases locked with ⟨rfl, rfl⟩
      rcases Table.get?_eq_some_iff.mp found with ⟨member, sameId⟩
      exact ⟨member, sameId, rfl⟩

/-- A bound launch was queued, and nothing halted it. -/
theorem bindRun_eq_ok {halts : Option String}
    (bound : bindRun launchId runId halts store = .ok (launch, final)) :
    halts = none ∧ ∃ stored ∈ store.launches, stored.id = launchId ∧ stored.status = .queued ∧
      launch = stored.bind runId store.clock ∧ writeLaunch stored launch store = .ok final := by
  unfold bindRun at bound
  cases locked : lockedLaunch launchId none store with
  | error failure => simp [locked] at bound
  | ok pair =>
      rcases pair with ⟨copy, stored⟩
      rcases lockedLaunch_eq_ok locked with ⟨member, sameId, copyEq⟩
      rw [Option.getD_none] at copyEq
      simp only [locked, copyEq] at bound
      by_cases queued : stored.status = .queued
      · cases halts with
        | some failureCode => simp [queued] at bound
        | none =>
            cases written : writeLaunch stored (stored.bind runId store.clock) store with
            | error failure => simp [queued, written] at bound
            | ok result =>
                simp only [queued, written, ne_eq, not_true_eq_false, if_false, Except.ok.injEq,
                  Prod.mk.injEq] at bound
                rcases bound with ⟨rfl, rfl⟩
                exact ⟨rfl, stored, member, sameId, queued, rfl, written⟩
      · simp [queued] at bound

theorem bindRun_write {halts : Option String}
    (bound : bindRun launchId runId halts store = .ok (launch, final)) :
    LaunchWrite launchId (some runId) store final := by
  rcases bindRun_eq_ok bound with ⟨_, stored, member, rfl, queued, launchEq, written⟩
  rw [launchEq] at written
  exact writeLaunch_write member (frozen_bind _ _ _) nofun (fun _ => queued) (Or.inr rfl) written

theorem settleCompleted_write (settled : settleCompleted launchId held store = .ok final) :
    LaunchWrite launchId none store final := by
  unfold settleCompleted at settled
  cases locked : lockedLaunch launchId held store with
  | error failure => simp [locked] at settled
  | ok pair =>
      rcases lockedLaunch_eq_ok locked with ⟨stored, rfl, _⟩
      simp only [locked] at settled
      split at settled
      · cases settled
        exact .kept
      · exact writeLaunch_write stored (frozen_complete _ _) nofun nofun (Or.inl rfl) settled

theorem settleFailed_write {failureCode : String}
    (settled : settleFailed launchId held failureCode store = .ok final) :
    LaunchWrite launchId none store final := by
  unfold settleFailed at settled
  cases locked : lockedLaunch launchId held store with
  | error failure => simp [locked] at settled
  | ok pair =>
      rcases lockedLaunch_eq_ok locked with ⟨stored, rfl, _⟩
      simp only [locked] at settled
      split at settled
      · exact writeLaunch_write stored (frozen_fail _ _ _) nofun nofun (Or.inl rfl) settled
      · cases settled
        exact .kept

theorem cancelQueued_write (cancelled : cancelQueued launchId store = .ok final) :
    LaunchWrite launchId none store final := by
  unfold cancelQueued at cancelled
  cases locked : lockedLaunch launchId none store with
  | error failure => simp [locked] at cancelled
  | ok pair =>
      rcases lockedLaunch_eq_ok locked with ⟨stored, rfl, _⟩
      simp only [locked] at cancelled
      split at cancelled
      · cases cancelled
      · exact writeLaunch_write stored (frozen_fail _ _ _) nofun nofun (Or.inl rfl) cancelled

/-- The launch of a finished run is settled only when it is executing. -/
theorem settleForTerminalRun_write {held : Option SuiteRun}
    (settled : settleForTerminalRun runId held store = .ok final) :
    final = store ∨ ∃ launch ∈ store.launches, launch.status = .executing ∧
      LaunchWrite launch.id none store final := by
  unfold settleForTerminalRun at settled
  split at settled
  · cases settled
    exact Or.inl rfl
  · next launch found =>
      have stored : launch ∈ store.launches := List.mem_of_find?_eq_some found
      split at settled
      · cases settled
        exact Or.inl rfl
      · next executing =>
          rw [ne_eq, not_not] at executing
          split at settled
          · cases settled
            exact Or.inl rfl
          · simp only at settled
            split at settled
            · cases settled
              exact Or.inl rfl
            · refine Or.inr ⟨launch, stored, executing, ?_⟩
              split at settled
              · exact writeLaunch_write stored (frozen_complete _ _) nofun nofun (Or.inl rfl) settled
              · exact writeLaunch_write stored (frozen_fail _ _ _) nofun nofun (Or.inl rfl) settled

/-- The records of a store agree: the indexes and the checks of the table hold, and every
settled launch agrees with the run that it names. -/
structure RecordsAgree (store : LaunchStore) : Prop where
  onePending : ∀ first ∈ store.launches, ∀ second ∈ store.launches,
    first.merchantId = second.merchantId → first.isPending = true → second.isPending = true →
      first = second
  oneLaunch : ∀ first ∈ store.launches, ∀ second ∈ store.launches, ∀ runId,
    first.runId = some runId → second.runId = some runId → first = second
  oneRequest : ∀ first ∈ store.launches, ∀ second ∈ store.launches,
    first.merchantId = second.merchantId → first.requestKey = second.requestKey → first = second
  settled : ∀ launch ∈ store.launches, settlementGuard store.runs launch = none
  checked : ∀ launch ∈ store.launches, launch.violated = none
  named : ∀ launch ∈ store.launches, namesRun store.runs launch.merchantId launch.runId = true ∧
    namesRun store.runs launch.merchantId launch.baselineRunId = true
  timed : ∀ launch ∈ store.launches, launch.requestedAt ≤ store.clock

theorem heldElsewhere_eq_false_iff {launches : Table EvaluationLaunch}
    {holds : EvaluationLaunch → Bool} :
    heldElsewhere launches new holds = false ↔
      (holds new = true → ∀ other ∈ launches, other.id ≠ new.id → holds other = false) := by
  simp [heldElsewhere, Table.mem_def]

/-- A row that breaks no constraint meets them all. -/
theorem brokenConstraint_eq_none_iff :
    brokenConstraint store new = none ↔
      new.violated = none ∧ requestTaken store.launches new = false ∧
        runTaken store.launches new = false ∧ pendingTaken store.launches new = false ∧
          namesRun store.runs new.merchantId new.runId = true ∧
            namesRun store.runs new.merchantId new.baselineRunId = true := by
  unfold brokenConstraint
  cases violated : new.violated with
  | some name => simp
  | none => simp [ite_eq_iff]

/-- Every write keeps the records in agreement. -/
theorem RecordsAgree.write (agree : RecordsAgree store)
    (written : LaunchWrite launchId binds store final) : RecordsAgree final := by
  cases written with
  | kept => exact agree
  | @wrote new launches isAt unbroken settled rows origin =>
      rcases brokenConstraint_eq_none_iff.mp unbroken with
        ⟨checked, requestFree, runFree, pendingFree, runNamed, baselineNamed⟩
      have requestAlone := heldElsewhere_eq_false_iff.mp requestFree
      have runAlone := heldElsewhere_eq_false_iff.mp runFree
      have pendingAlone := heldElsewhere_eq_false_iff.mp pendingFree
      constructor
      · intro first firstMem second secondMem sameMerchant firstPending secondPending
        rcases (rows first).mp firstMem with rfl | ⟨firstOld, firstOther⟩ <;>
          rcases (rows second).mp secondMem with rfl | ⟨secondOld, secondOther⟩
        · rfl
        · have free := pendingAlone (by simp [firstPending]) second secondOld secondOther
          simp [secondPending, sameMerchant] at free
        · have free := pendingAlone (by simp [secondPending]) first firstOld firstOther
          simp [firstPending, sameMerchant] at free
        · exact agree.onePending first firstOld second secondOld sameMerchant firstPending
            secondPending
      · intro first firstMem second secondMem runId firstRun secondRun
        rcases (rows first).mp firstMem with rfl | ⟨firstOld, firstOther⟩ <;>
          rcases (rows second).mp secondMem with rfl | ⟨secondOld, secondOther⟩
        · rfl
        · have free := runAlone (by simp [firstRun]) second secondOld secondOther
          simp [firstRun, secondRun] at free
        · have free := runAlone (by simp [secondRun]) first firstOld firstOther
          simp [firstRun, secondRun] at free
        · exact agree.oneLaunch first firstOld second secondOld runId firstRun secondRun
      · intro first firstMem second secondMem sameMerchant sameKey
        rcases (rows first).mp firstMem with rfl | ⟨firstOld, firstOther⟩ <;>
          rcases (rows second).mp secondMem with rfl | ⟨secondOld, secondOther⟩
        · rfl
        · have free := requestAlone (by simp) second secondOld secondOther
          simp [sameMerchant, sameKey] at free
        · have free := requestAlone (by simp) first firstOld firstOther
          simp [sameMerchant, sameKey] at free
        · exact agree.oneRequest first firstOld second secondOld sameMerchant sameKey
      · intro launch member
        rcases (rows launch).mp member with rfl | ⟨old, _⟩
        · exact settled
        · exact agree.settled launch old
      · intro launch member
        rcases (rows launch).mp member with rfl | ⟨old, _⟩
        · exact checked
        · exact agree.checked launch old
      · intro launch member
        rcases (rows launch).mp member with rfl | ⟨old, _⟩
        · exact ⟨runNamed, baselineNamed⟩
        · exact agree.named launch old
      · intro launch member
        rcases (rows launch).mp member with rfl | ⟨old, _⟩
        · rcases origin with ⟨_, _, timed, _⟩ | ⟨earlier, earlierMem, frozen, _⟩
          · exact timed
          · rw [frozen]
            exact agree.timed earlier earlierMem
        · exact agree.timed launch old

/-- A launch and what became of it. -/
structure LaunchFollows (before after : EvaluationLaunch) : Prop where
  frozen : Frozen before after
  settled : before.isSettled = true → after = before
  bound : ∀ runId, before.runId = some runId → after.runId = some runId
  started : before.status = .executing → after.status ≠ .queued

theorem LaunchFollows.refl (launch : EvaluationLaunch) : LaunchFollows launch launch where
  frozen := rfl
  settled _ := rfl
  bound _ named := named
  started executing queued := by
    rw [executing] at queued
    cases queued

theorem Frozen.trans {first middle last : EvaluationLaunch} (earlier : Frozen first middle)
    (later : Frozen middle last) : Frozen first last := by
  unfold Frozen at earlier later ⊢
  rw [later, earlier]

theorem LaunchFollows.trans {first middle last : EvaluationLaunch} (earlier : LaunchFollows first middle)
    (later : LaunchFollows middle last) : LaunchFollows first last where
  frozen := earlier.frozen.trans later.frozen
  settled isSettled := by
    have same := earlier.settled isSettled
    rw [same] at later
    exact later.settled isSettled
  bound runId named := later.bound runId (earlier.bound runId named)
  started executing queued := by
    have notQueued := earlier.started executing
    cases status : middle.status with
    | queued => exact notQueued status
    | executing => exact later.started status queued
    | completed | failed =>
        have same := later.settled (by simp [EvaluationLaunch.isSettled, status])
        rw [same] at queued
        exact notQueued queued

/-- A write past the trigger is followed. -/
theorem launchFollows_of_write {runs : RunStore} (frozen : Frozen old new)
    (guarded : launchGuard runs old new = none) (moved : (old.status, new.status) ∈ launchMoves) :
    LaunchFollows old new where
  frozen := frozen
  settled isSettled := by
    cases status : old.status <;> simp [EvaluationLaunch.isSettled, launchMoves, status] at *
  bound runId named := by
    unfold launchGuard at guarded
    split at guarded
    · cases guarded
    · next stays =>
        by_contra other
        exact stays ⟨by rw [named]; rfl, by rw [named]; exact other⟩
  started executing queued := by
    simp [launchMoves, executing, queued] at moved

/-- What one step does to the launches: every launch is as it was, or it moved by one
transition; and a launch that is new is queued. -/
structure LaunchStep (store final : LaunchStore) : Prop where
  kept : ∀ launch ∈ store.launches, ∃ next ∈ final.launches, LaunchFollows launch next ∧
    (next = launch ∨ (launch.status, next.status) ∈ launchMoves)
  new : ∀ launch ∈ final.launches, (∃ earlier ∈ store.launches, earlier.id = launch.id) ∨
    launch.status = .queued

theorem LaunchStep.of_same (same : final.launches = store.launches) : LaunchStep store final where
  kept launch member := ⟨launch, same ▸ member, LaunchFollows.refl launch, Or.inl rfl⟩
  new launch member := Or.inl ⟨launch, same ▸ member, rfl⟩

theorem LaunchWrite.step (written : LaunchWrite launchId binds store final) :
    LaunchStep store final := by
  cases written with
  | kept => exact .of_same rfl
  | @wrote new launches isAt unbroken settled rows origin =>
      constructor
      · intro launch member
        by_cases sameId : launch.id = new.id
        · rcases origin with ⟨_, _, _, fresh⟩ | ⟨old, oldMem, frozen, guarded, moved, _⟩
          · exact absurd sameId (fresh launch member)
          · have sameRow : launch = old := by
              apply Table.eq_of_key_eq member oldMem
              exact sameId.trans (by rw [frozen]; rfl)
            rw [sameRow]
            exact ⟨new, (rows new).mpr (Or.inl rfl), launchFollows_of_write frozen guarded moved,
              Or.inr moved⟩
        · exact ⟨launch, (rows launch).mpr (Or.inr ⟨member, sameId⟩), LaunchFollows.refl launch,
            Or.inl rfl⟩
      · intro launch member
        rcases (rows launch).mp member with rfl | ⟨old, _⟩
        · rcases origin with ⟨queued, _⟩ | ⟨old, oldMem, frozen, _⟩
          · exact Or.inr queued
          · exact Or.inl ⟨old, oldMem, by rw [frozen]⟩
        · exact Or.inl ⟨launch, old, rfl⟩

end AgentRank.Benchmark
