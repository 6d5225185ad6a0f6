import AgentRank.Benchmark.Isolation
import Mathlib.Logic.Relation

/-!
# What a mission is charged for its processes

The executor settles each reservation once, whatever becomes of the processes of the
mission.  A process that cannot be started, or that refuses before it reads a mission, has
the whole reservation released.  That is right for the first process of a mission and wrong
for a later one, since the earlier ones may have spent some of the same reservation.
-/

namespace AgentRank.Benchmark

open Relational Store

/-- What a settlement charges a permit of some size. -/
def Settlement.charge (granted : Nat) : Settlement → Nat
  | reconcile consumedRequests => (max 0 (min consumedRequests granted)).toNat
  | assumeSpent => granted
  | release => 0

theorem chargedRequests_settledPermit {permit : ProviderExecutionPermit}
    (isReserved : permit.state = .reserved) {closedAt : Instant}
    (inOrder : permit.openedAt ≤ closedAt) (settlement : Settlement) :
    (settledPermit permit isReserved closedAt inOrder settlement).chargedRequests =
      settlement.charge permit.grantedRequests := by
  cases settlement <;> rfl

/-- No settlement charges more than the grant. -/
theorem Settlement.charge_le (granted : Nat) (settlement : Settlement) :
    settlement.charge granted ≤ granted := by
  cases settlement with
  | reconcile consumedRequests =>
      simp only [Settlement.charge]
      omega
  | assumeSpent => exact le_rfl
  | release => exact Nat.zero_le _

/-- Requests within the grant are charged as they are. -/
theorem Settlement.charge_reconcile {granted spent : Nat} (within : spent ≤ granted) :
    (Settlement.reconcile spent).charge granted = spent := by
  simp only [Settlement.charge]
  omega

/-- The executor holds a reservation that nobody has settled. -/
structure Holding (executor : IsolatedMissionExecutor) (grant : ProviderGrant) : Prop where
  grantEq : executor.grant = some grant
  unsettled : executor.settled = false
  untold : executor.settlements = []

/-- The executor settled its reservation, once. -/
structure SettledAs (executor : IsolatedMissionExecutor) (permitId : Uuid)
    (settlement : Settlement) : Prop where
  dropped : executor.grant = none
  told : executor.settlements = [(permitId, settlement)]

namespace IsolatedMissionExecutor

@[simp]
theorem settle_requests (executor : IsolatedMissionExecutor) (settlement : Settlement) :
    (executor.settle settlement).requests = executor.requests := by
  unfold settle
  split
  · rfl
  · split <;> rfl

theorem settle_of_holding {executor : IsolatedMissionExecutor} {grant : ProviderGrant}
    (holding : Holding executor grant) (settlement : Settlement) :
    SettledAs (executor.settle settlement) grant.permitId settlement := by
  simp only [settle, holding.grantEq, holding.unsettled, holding.untold]
  exact ⟨rfl, rfl⟩

/-- A settlement cannot be undone by a later one. -/
theorem settle_of_settled {executor : IsolatedMissionExecutor} {permitId : Uuid}
    {settled : Settlement} (done : SettledAs executor permitId settled)
    (settlement : Settlement) : executor.settle settlement = executor := by
  simp only [settle, done.dropped]

end IsolatedMissionExecutor

/-! ## One process -/

variable {agentEvidence : Option AgentExecutionEvidence} {report : ExecutorReport}

namespace WorkerProcess

variable {handed : Option Nat}

/-- What a process reported, when it ended cleanly and all of it could be read. -/
def cleanReport (process : WorkerProcess handed) :
    Option (ExecutorReport × Option AgentExecutionEvidence × Option Nat) :=
  match process.ending with
  | .exited 0 (.document document) _ =>
      match document.report, document.agentEvidence, document.providerAttempts with
      | .ok report, .ok agentEvidence, .ok attempts => some (report, agentEvidence, attempts)
      | _, _, _ => none
  | _ => none

/-- A clean report names the requests that were made. -/
theorem attempts_eq {process : WorkerProcess handed} {attempts : Nat}
    (clean : process.cleanReport = some (report, agentEvidence, some attempts)) :
    attempts = process.requests := by
  unfold cleanReport at clean
  split at clean
  · next document stderr ended =>
      split at clean
      · next attemptsEq =>
          cases clean
          exact process.truthful document stderr attempts ended attemptsEq
      · cases clean
  · cases clean

/-- A process that reports has read its mission. -/
theorem readNoMission_of_cleanReport {process : WorkerProcess handed}
    {reported : ExecutorReport × Option AgentExecutionEvidence × Option Nat}
    (clean : process.cleanReport = some reported) :
    process.ending.readNoMission = false := by
  unfold cleanReport at clean
  split at clean
  · next document stderr ended =>
      rw [ended]
      rfl
  · cases clean

end WorkerProcess

namespace IsolatedMissionExecutor

variable {handed : Option Nat} {executor : IsolatedMissionExecutor} {grant : ProviderGrant}
  {process : WorkerProcess handed}

/-- Nothing is settled yet when a process reports cleanly. -/
theorem through_of_cleanReport {report : ExecutorReport} {attempts : Option Nat}
    (clean : process.cleanReport = some (report, agentEvidence, attempts)) :
    executor.through process =
      ({ executor.watch process with agentEvidence := agentEvidence },
        .ok (report, attempts)) := by
  unfold WorkerProcess.cleanReport at clean
  split at clean
  · next document stderr ended =>
      split at clean
      · next reportEq evidenceEq attemptsEq =>
          cases clean
          simp only [through, ended, readDocument, reportEq, evidenceEq, attemptsEq]
          rfl
      · cases clean
  · cases clean

/-- What the executor settled stays settled through the `finally`. -/
theorem settledAs_settle_twice (holding : Holding executor grant) (settlement : Settlement) :
    SettledAs ((executor.settle settlement).settle .assumeSpent) grant.permitId settlement := by
  have done := settle_of_holding holding settlement
  rw [settle_of_settled done]
  exact done

theorem holding_watch (holding : Holding executor grant) (process : WorkerProcess handed) :
    Holding (executor.watch process) grant :=
  ⟨holding.grantEq, holding.unsettled, holding.untold⟩

/-- A non zero exit releases the grant or charges all of it. -/
theorem settleExit_eq (holding : Holding executor grant) (returncode : Int) :
    ∃ settlement, executor.settleExit returncode = executor.settle settlement ∧
      settlement.charge grant.grantedRequests =
        if returncode = exitNotIsolated ∨ returncode = exitProtocol then 0
        else grant.grantedRequests := by
  unfold settleExit
  split
  · exact ⟨.release, rfl, rfl⟩
  · split
    · rw [holding.grantEq]
      exact ⟨_, rfl, Settlement.charge_reconcile le_rfl⟩
    · exact ⟨.assumeSpent, rfl, rfl⟩

/-- A document that cannot be read charges the whole grant. -/
theorem readDocument_of_failure (holding : Holding executor grant)
    {document : WorkerDocument}
    (unread : ∀ report agentEvidence attempts, document.report = .ok report →
      document.agentEvidence = .ok agentEvidence →
      document.providerAttempts = .ok attempts → False) :
    ∃ failed failure, executor.readDocument document = (failed, .error failure) ∧
      failed.requests = executor.requests ∧
      SettledAs (failed.settle .assumeSpent) grant.permitId .assumeSpent := by
  unfold readDocument
  cases evidenceEq : document.agentEvidence with
  | error malformed =>
      exact ⟨_, _, rfl, settle_requests _ _, settledAs_settle_twice holding _⟩
  | ok agentEvidence =>
      have stillHolding :
          Holding { executor with agentEvidence := agentEvidence } grant :=
        ⟨holding.grantEq, holding.unsettled, holding.untold⟩
      cases attemptsEq : document.providerAttempts with
      | error malformed =>
          exact ⟨_, _, rfl, settle_requests _ _, settledAs_settle_twice stillHolding _⟩
      | ok attempts =>
          cases reportEq : document.report with
          | error malformed =>
              exact ⟨_, _, rfl, settle_requests _ _, settledAs_settle_twice stillHolding _⟩
          | ok report => exact (unread report agentEvidence attempts reportEq evidenceEq attemptsEq).elim

/-- Any other process is settled by the end of the mission: for nothing when it read no
mission, and for the whole grant otherwise. -/
theorem through_of_failure (holding : Holding executor grant)
    (unclean : process.cleanReport = none) :
    ∃ failed failure settlement,
      executor.through process = (failed, .error failure) ∧
      failed.requests = executor.requests + process.requests ∧
      SettledAs (failed.settle .assumeSpent) grant.permitId settlement ∧
      settlement.charge grant.grantedRequests =
        if process.ending.readNoMission then 0 else grant.grantedRequests := by
  have watching := holding_watch holding process
  unfold through
  cases ended : process.ending with
  | unstartable detail =>
      exact ⟨_, _, _, rfl, settle_requests _ _, settledAs_settle_twice watching _, rfl⟩
  | timedOut =>
      exact ⟨_, _, _, rfl, settle_requests _ _, settledAs_settle_twice watching _, rfl⟩
  | boundaryFailed exception =>
      exact ⟨_, _, _, rfl, rfl, settle_of_holding watching _, rfl⟩
  | exited returncode stdout stderr =>
      by_cases clean : returncode = 0
      · subst clean
        cases stdout with
        | notJson =>
            exact ⟨_, _, _, rfl, settle_requests _ _, settledAs_settle_twice watching _, rfl⟩
        | document document =>
            have unread : ∀ report agentEvidence attempts, document.report = .ok report →
                document.agentEvidence = .ok agentEvidence →
                document.providerAttempts = .ok attempts → False := by
              intro report agentEvidence attempts reportEq evidenceEq attemptsEq
              simp only [WorkerProcess.cleanReport, ended, reportEq, evidenceEq,
                attemptsEq] at unclean
              cases unclean
            obtain ⟨failed, failure, readEq, requestsEq, done⟩ :=
              readDocument_of_failure watching unread
            exact ⟨failed, failure, .assumeSpent, readEq, requestsEq, done, rfl⟩
      · obtain ⟨settlement, exitEq, charged⟩ := settleExit_eq watching returncode
        simp only [ne_eq, clean, not_false_eq_true, if_true, exitEq]
        refine ⟨_, _, settlement, rfl, settle_requests _ _,
          settledAs_settle_twice watching _, ?_⟩
        simpa [WorkerEnding.readNoMission] using charged

variable {processes : (tried : Nat) → (handed : Option Nat) → WorkerProcess handed}
  {keysLeft tried spent : Nat} {after : IsolatedMissionExecutor} {report : ExecutorReport}

theorem attempted_of_error {failure : MissionFailure}
    (throughEq : executor.through (processes tried handed) = (after, .error failure)) :
    executor.attempted processes keysLeft tried spent handed = (after, .error failure) := by
  rw [attempted.eq_def]
  simp only [throughEq]

theorem attempted_of_unknown
    (throughEq : executor.through (processes tried handed) = (after, .ok (report, none))) :
    executor.attempted processes keysLeft tried spent handed =
      (after.settle .assumeSpent, .ok report) := by
  rw [attempted.eq_def]
  simp only [throughEq]

/-- What the loop asks before it starts another process. -/
def mayRetry (after : IsolatedMissionExecutor) (grant : ProviderGrant) (spent : Nat)
    (report : ExecutorReport) : Bool :=
  decide (spent < grant.grantedRequests) &&
    untouchedProviderFailure after.served after.agentEvidence report

theorem attempted_of_known {attempts : Nat}
    (throughEq : executor.through (processes tried handed) =
      (after, .ok (report, some attempts)))
    (holding : after.grant = some grant)
    (stops : keysLeft = 0 ∨ after.mayRetry grant (spent + attempts) report = false) :
    executor.attempted processes keysLeft tried spent handed =
      (after.settle (.reconcile (spent + attempts : Nat)), .ok report) := by
  rw [attempted.eq_def]
  simp only [throughEq, holding, Option.map_some]
  cases keysLeft with
  | zero => rfl
  | succ keysLeft =>
      have stopped := stops.resolve_left (Nat.succ_ne_zero keysLeft)
      simp only [mayRetry, Bool.and_eq_false_iff, decide_eq_false_iff_not] at stopped
      apply if_pos
      rcases stopped with spentAll | touched
      · left
        rw [Option.some.injEq]
        omega
      · right
        rw [touched, Bool.not_false]

theorem attempted_of_retry {attempts : Nat}
    (throughEq : executor.through (processes tried handed) =
      (after, .ok (report, some attempts)))
    (holding : after.grant = some grant)
    (goesOn : after.mayRetry grant (spent + attempts) report = true) :
    executor.attempted processes (keysLeft + 1) tried spent handed =
      after.rotate.attempted processes keysLeft (tried + 1) (spent + attempts)
        (some (grant.grantedRequests - (spent + attempts))) := by
  rw [attempted.eq_def]
  simp only [mayRetry, Bool.and_eq_true, decide_eq_true_eq] at goesOn
  simp only [throughEq, holding, Option.map_some]
  rw [if_neg]
  rintro (spentAll | touched)
  · rw [Option.some.injEq] at spentAll
    omega
  · rw [goesOn.2] at touched
    cases touched

end IsolatedMissionExecutor

/-! ## The processes of a mission -/

/-- Where a mission stands when it starts a process: how many it started before this one,
and the requests that those made. -/
structure Place where
  tried : Nat
  spent : Nat

section Retrying

variable (processes : (tried : Nat) → (handed : Option Nat) → WorkerProcess handed)
  (keys granted : Nat)

/-- The process that a mission starts at a place. -/
def processAt (place : Place) : WorkerProcess (some (granted - place.spent)) :=
  processes place.tried (some (granted - place.spent))

/-- A mission starts another process: the one before it ended on the provider with the
merchant untouched, another key is there, and some of the grant is left. -/
inductive Retries : Place → Place → Prop
  | nextKey {place : Place} {report : ExecutorReport}
      {agentEvidence : Option AgentExecutionEvidence} {attempts : Nat}
      (clean : (processAt processes granted place).cleanReport =
        some (report, agentEvidence, some attempts))
      (untouched : untouchedProviderFailure (processAt processes granted place).served
        agentEvidence report = true)
      (anotherKey : place.tried + 1 < keys)
      (left : place.spent + attempts < granted) :
      Retries place ⟨place.tried + 1, place.spent + attempts⟩

/-- A mission starts a process after earlier ones made requests, and that process cannot
be started or refuses before it reads the mission. -/
def LateRefusal (place : Place) : Prop :=
  ∃ later, Relation.ReflTransGen (Retries processes keys granted) place later ∧
    1 ≤ later.spent ∧ (processAt processes granted later).ending.readNoMission = true

variable {processes : (tried : Nat) → (handed : Option Nat) → WorkerProcess handed}
  {keys granted : Nat} {place : Place}

/-- Where a mission starts no other process, only the one it is at can refuse late. -/
theorem lateRefusal_iff_of_last
    (last : ∀ next, ¬Retries processes keys granted place next) :
    LateRefusal processes keys granted place ↔
      1 ≤ place.spent ∧ (processAt processes granted place).ending.readNoMission = true := by
  constructor
  · rintro ⟨later, reached, spent, refused⟩
    rcases Relation.ReflTransGen.cases_head_iff.mp reached with rfl | ⟨next, retried, _⟩
    · exact ⟨spent, refused⟩
    · exact (last next retried).elim
  · rintro ⟨spent, refused⟩
    exact ⟨place, .refl, spent, refused⟩

/-- Where a mission starts another process, the one it is at has not refused. -/
theorem lateRefusal_iff_of_retries {next : Place}
    (retried : Retries processes keys granted place next) :
    LateRefusal processes keys granted place ↔
      LateRefusal processes keys granted next := by
  constructor
  · rintro ⟨later, reached, spent, refused⟩
    rcases Relation.ReflTransGen.cases_head_iff.mp reached with rfl | ⟨other, step, rest⟩
    · cases retried with
      | nextKey clean =>
          rw [WorkerProcess.readNoMission_of_cleanReport clean] at refused
          cases refused
    · have sameNext : other = next := by
        cases step with
        | nextKey clean =>
            cases retried with
            | nextKey otherClean =>
                rw [clean] at otherClean
                cases otherClean
                rfl
      rw [sameNext] at rest
      exact ⟨later, rest, spent, refused⟩
  · rintro ⟨later, reached, spent, refused⟩
    exact ⟨later, .head retried reached, spent, refused⟩

/-- A mission that ends where its process read the mission is charged in full. -/
theorem counted_of_last (last : ∀ next, ¬Retries processes keys granted place next)
    (readMission : (processAt processes granted place).ending.readNoMission = false)
    {requests charged : Nat} (counted : requests ≤ charged) :
    requests ≤ charged ↔ ¬LateRefusal processes keys granted place := by
  simp [counted, lateRefusal_iff_of_last last, readMission]

/-- Only a clean report with a number of attempts is followed by another process. -/
theorem cleanReport_of_retries {next : Place}
    (retried : Retries processes keys granted place next) :
    ∃ report agentEvidence attempts,
      (processAt processes granted place).cleanReport =
          some (report, agentEvidence, some attempts) ∧
        untouchedProviderFailure (processAt processes granted place).served
            agentEvidence report = true ∧
          place.tried + 1 < keys ∧ place.spent + attempts < granted ∧
            next = ⟨place.tried + 1, place.spent + attempts⟩ := by
  cases retried with
  | nextKey clean untouched anotherKey left =>
      exact ⟨_, _, _, clean, untouched, anotherKey, left, rfl⟩

/-- From a place on a mission settles its reservation once, and is charged in full unless
one of its processes refuses late. -/
def ChargedFrom (processes : (tried : Nat) → (handed : Option Nat) → WorkerProcess handed)
    (keys : Nat) (grant : ProviderGrant) (place : Place) (final : IsolatedMissionExecutor) :
    Prop :=
  ∃ settlement, SettledAs (final.settle .assumeSpent) grant.permitId settlement ∧
    (final.requests ≤ settlement.charge grant.grantedRequests ↔
      ¬LateRefusal processes keys grant.grantedRequests place)

variable {grant : ProviderGrant} {executor : IsolatedMissionExecutor}

/-- A process that does not report ends its mission. -/
theorem chargedFrom_of_failure (keysLeft : Nat) (holding : Holding executor grant)
    (spentEq : executor.requests = place.spent)
    (within : place.spent ≤ grant.grantedRequests)
    (unclean : (processAt processes grant.grantedRequests place).cleanReport = none) :
    ChargedFrom processes keys grant place
      (executor.attempted processes keysLeft place.tried place.spent
        (some (grant.grantedRequests - place.spent))).1 := by
  have last : ∀ next, ¬Retries processes keys grant.grantedRequests place next := by
    intro next retried
    obtain ⟨_, _, _, clean, _⟩ := cleanReport_of_retries retried
    rw [unclean] at clean
    cases clean
  obtain ⟨failed, failure, settlement, throughEq, requestsEq, done, charged⟩ :=
    IsolatedMissionExecutor.through_of_failure holding unclean
  rw [IsolatedMissionExecutor.attempted_of_error throughEq]
  refine ⟨settlement, done, ?_⟩
  rw [lateRefusal_iff_of_last last, requestsEq, spentEq, charged]
  cases refused : (processAt processes grant.grantedRequests place).ending.readNoMission with
  | true =>
      have noRequest :=
        (processAt processes grant.grantedRequests place).noMissionNoRequest refused
      simp [noRequest]
  | false =>
      have bounded := (processAt processes grant.grantedRequests place).withinGrant _ rfl
      simp only [Bool.false_eq_true, and_false, not_false_eq_true, iff_true, if_false]
      omega

/-- A process that reports stops its mission where it is not followed by another. -/
theorem chargedFrom_of_settle {attempts : Option Nat} (holding : Holding executor grant)
    (spentEq : executor.requests = place.spent)
    (clean : (processAt processes grant.grantedRequests place).cleanReport =
      some (report, agentEvidence, attempts))
    (last : ∀ next, ¬Retries processes keys grant.grantedRequests place next)
    {settlement : Settlement}
    (counted : place.spent + (processAt processes grant.grantedRequests place).requests ≤
      settlement.charge grant.grantedRequests) :
    ChargedFrom processes keys grant place
      (IsolatedMissionExecutor.settle
        { executor.watch (processAt processes grant.grantedRequests place) with
          agentEvidence := agentEvidence } settlement) := by
  have stillHolding :
      Holding
        { executor.watch (processAt processes grant.grantedRequests place) with
          agentEvidence := agentEvidence } grant :=
    ⟨holding.grantEq, holding.unsettled, holding.untold⟩
  refine ⟨settlement, IsolatedMissionExecutor.settledAs_settle_twice stillHolding _, ?_⟩
  apply counted_of_last last (WorkerProcess.readNoMission_of_cleanReport clean)
  rw [IsolatedMissionExecutor.settle_requests]
  simp only [IsolatedMissionExecutor.watch, spentEq]
  exact counted

/-- What the executor asks before it retries is what the next process waits for. -/
theorem mayRetry_iff (unserved : executor.served = []) (spent : Nat) :
    IsolatedMissionExecutor.mayRetry
        { executor.watch (processAt processes grant.grantedRequests place) with
          agentEvidence := agentEvidence } grant spent report = true ↔
      spent < grant.grantedRequests ∧
        untouchedProviderFailure (processAt processes grant.grantedRequests place).served
          agentEvidence report = true := by
  simp [IsolatedMissionExecutor.mayRetry, IsolatedMissionExecutor.watch, unserved]

/-- A mission whose process is not followed by another is charged in full, unless that
process refused late. -/
theorem chargedFrom_of_last {keysLeft : Nat} (holding : Holding executor grant)
    (spentEq : executor.requests = place.spent)
    (within : place.spent ≤ grant.grantedRequests) (unserved : executor.served = [])
    (keysEq : place.tried + 1 + keysLeft = keys)
    (last : ∀ next, ¬Retries processes keys grant.grantedRequests place next) :
    ChargedFrom processes keys grant place
      (executor.attempted processes keysLeft place.tried place.spent
        (some (grant.grantedRequests - place.spent))).1 := by
  have bounded := (processAt processes grant.grantedRequests place).withinGrant _ rfl
  cases clean : (processAt processes grant.grantedRequests place).cleanReport with
  | none => exact chargedFrom_of_failure keysLeft holding spentEq within clean
  | some reported =>
      obtain ⟨report, agentEvidence, attempts⟩ := reported
      have throughEq :
          executor.through (processAt processes grant.grantedRequests place) = _ :=
        IsolatedMissionExecutor.through_of_cleanReport clean
      cases attempts with
      | none =>
          rw [IsolatedMissionExecutor.attempted_of_unknown throughEq]
          apply chargedFrom_of_settle holding spentEq clean last
          simp only [Settlement.charge]
          omega
      | some attempts =>
          have stops : keysLeft = 0 ∨
              IsolatedMissionExecutor.mayRetry
                { executor.watch (processAt processes grant.grantedRequests place) with
                  agentEvidence := agentEvidence } grant (place.spent + attempts) report =
                false := by
            by_contra goesOn
            rw [not_or, Bool.not_eq_false, mayRetry_iff unserved] at goesOn
            exact last _ (.nextKey clean goesOn.2.2 (by omega) goesOn.2.1)
          rw [IsolatedMissionExecutor.attempted_of_known throughEq holding.grantEq stops]
          have attemptsEq := WorkerProcess.attempts_eq clean
          apply chargedFrom_of_settle holding spentEq clean last
          rw [Settlement.charge_reconcile (by omega), attemptsEq]

/-- The processes from a place on are charged in full unless one of them refuses late. -/
theorem attempted_charge {keysLeft : Nat} (holding : Holding executor grant)
    (spentEq : executor.requests = place.spent)
    (within : place.spent ≤ grant.grantedRequests) (unserved : executor.served = [])
    (keysEq : place.tried + 1 + keysLeft = keys) :
    ChargedFrom processes keys grant place
      (executor.attempted processes keysLeft place.tried place.spent
        (some (grant.grantedRequests - place.spent))).1 := by
  -- The induction is on the keys left.  Before every process the executor still holds the
  -- reservation, and the requests made so far are the ones it has counted.
  induction keysLeft generalizing place executor with
  | zero =>
      refine chargedFrom_of_last holding spentEq within unserved keysEq fun next retried => ?_
      obtain ⟨_, _, _, _, _, anotherKey, _⟩ := cleanReport_of_retries retried
      omega
  | succ keysLeft inductionHypothesis =>
      by_cases goesOn : ∃ next, Retries processes keys grant.grantedRequests place next
      · obtain ⟨next, retried⟩ := goesOn
        obtain ⟨report, agentEvidence, attempts, clean, untouched, _, left, rfl⟩ :=
          cleanReport_of_retries retried
        have throughEq :
            executor.through (processAt processes grant.grantedRequests place) = _ :=
          IsolatedMissionExecutor.through_of_cleanReport clean
        have retries :
            IsolatedMissionExecutor.mayRetry
              { executor.watch (processAt processes grant.grantedRequests place) with
                agentEvidence := agentEvidence } grant (place.spent + attempts) report =
              true :=
          (mayRetry_iff unserved _).mpr ⟨left, untouched⟩
        rw [IsolatedMissionExecutor.attempted_of_retry throughEq holding.grantEq retries]
        have stillHolding :
            Holding
              (IsolatedMissionExecutor.rotate
                { executor.watch (processAt processes grant.grantedRequests place) with
                  agentEvidence := agentEvidence }) grant :=
          ⟨holding.grantEq, holding.unsettled, holding.untold⟩
        have countedEq :
            executor.requests + (processAt processes grant.grantedRequests place).requests =
              place.spent + attempts := by
          rw [spentEq, WorkerProcess.attempts_eq clean]
        have keysLeftEq : place.tried + 1 + 1 + keysLeft = keys := by omega
        have rest :
            ChargedFrom processes keys grant ⟨place.tried + 1, place.spent + attempts⟩ _ :=
          inductionHypothesis stillHolding countedEq left.le rfl keysLeftEq
        obtain ⟨settlement, done, charged⟩ := rest
        refine ⟨settlement, done, ?_⟩
        rw [lateRefusal_iff_of_retries retried]
        exact charged
      · exact chargedFrom_of_last holding spentEq within unserved keysEq
          (not_exists.mp goesOn)

end Retrying

/-! ## A whole mission -/

/-- The row that a settlement leaves of a reserved permit. -/
theorem settle_reserved {ledger : PermitLedger} {permit : ProviderExecutionPermit}
    (stored : ledger.permits.get? permit.id = some permit)
    (isReserved : permit.state = .reserved) {closedAt : Instant}
    (inOrder : permit.openedAt ≤ closedAt) (settlement : Settlement) :
    (settle ledger permit.id settlement closedAt).permits.get? permit.id =
      some (settledPermit permit isReserved closedAt inOrder settlement) := by
  have member := (Table.get?_eq_some_iff.mp stored).1
  have sameKey : Keyed.key permit =
      Keyed.key (settledPermit permit isReserved closedAt inOrder settlement) := by
    cases settlement <;> rfl
  simp only [settle, stored, isReserved, inOrder, dif_pos]
  have replaced := Table.get?_set_self member sameKey
  rw [← sameKey] at replaced
  exact replaced

/-- The permit of a mission was settled once, and it is charged what the processes of the
mission spent, within its grant. -/
def SpendCounted (ledger : PermitLedger) (permit : ProviderExecutionPermit)
    (closedAt : Instant) (final : IsolatedMissionExecutor) : Prop :=
  ∃ settlement row, final.settlements = [(permit.id, settlement)] ∧
    (settle ledger permit.id settlement closedAt).permits.get? permit.id = some row ∧
    row.state ≠ .reserved ∧ final.requests ≤ row.chargedRequests ∧
    row.chargedRequests ≤ permit.grantedRequests

/-- A mission that starts with a clean record and the grant of its permit. -/
def IsolatedMissionExecutor.carryOut (executor : IsolatedMissionExecutor)
    (permit : ProviderExecutionPermit) (provisioned : Except String Unit)
    (processes : (tried : Nat) → (handed : Option Nat) → WorkerProcess handed)
    (merchantId : Uuid) : IsolatedMissionExecutor :=
  ((executor.forget.admitMission (grantOf permit)).call provisioned processes merchantId).1

/-- A mission that was provisioned ends with the default settlement. -/
theorem IsolatedMissionExecutor.call_provisioned (executor : IsolatedMissionExecutor)
    (processes : (tried : Nat) → (handed : Option Nat) → WorkerProcess handed)
    (merchantId : Uuid) :
    ∃ fault credentials, (executor.call (.ok ()) processes merchantId).1 =
      { (executor.attempted processes executor.sparedKeys 0 0
            (executor.grant.map ProviderGrant.grantedRequests)).1.settle .assumeSpent with
        fault := fault
        credentials := credentials } := by
  simp only [call]
  generalize executor.attempted processes executor.sparedKeys 0 0
    (executor.grant.map ProviderGrant.grantedRequests) = ended
  obtain ⟨ended, outcome⟩ := ended
  have settle_fault : ∀ fault, ({ ended with fault := fault }).settle .assumeSpent =
      { ended.settle .assumeSpent with fault := fault } := by
    intro fault
    simp only [settle]
    split
    · rfl
    · split <;> rfl
  cases outcome with
  | ok report => exact ⟨_, _, rfl⟩
  | error failure =>
      cases failure <;>
        · simp only [conclude]
          rw [settle_fault]
          exact ⟨_, _, rfl⟩

section Mission

variable {ledger : PermitLedger} {permit : ProviderExecutionPermit} {closedAt : Instant}

/-- What is counted depends on the one settlement only. -/
theorem spendCounted_iff_charge (stored : ledger.permits.get? permit.id = some permit)
    (isReserved : permit.state = .reserved) (inOrder : permit.openedAt ≤ closedAt)
    {final : IsolatedMissionExecutor} {settlement : Settlement}
    (told : final.settlements = [(permit.id, settlement)]) :
    SpendCounted ledger permit closedAt final ↔
      final.requests ≤ settlement.charge permit.grantedRequests := by
  have rowEq := settle_reserved stored isReserved inOrder settlement
  have charged := chargedRequests_settledPermit isReserved inOrder settlement
  constructor
  · rintro ⟨other, row, otherTold, otherEq, _, counted, _⟩
    rw [told] at otherTold
    cases otherTold
    rw [rowEq] at otherEq
    cases otherEq
    rw [← charged]
    exact counted
  · intro counted
    refine ⟨settlement, _, told, rowEq, ?_, charged ▸ counted,
      charged ▸ settlement.charge_le _⟩
    cases settlement <;> simp [settledPermit]

/-- The permit of every mission is settled once, and what the mission spent is within the
charge exactly when no process of it is refused after earlier ones spent. -/
theorem spend_counted_iff (stored : ledger.permits.get? permit.id = some permit)
    (isReserved : permit.state = .reserved) (inOrder : permit.openedAt ≤ closedAt)
    (executor : IsolatedMissionExecutor) (provisioned : Except String Unit)
    (processes : (tried : Nat) → (handed : Option Nat) → WorkerProcess handed)
    (merchantId : Uuid) :
    SpendCounted ledger permit closedAt
        (executor.carryOut permit provisioned processes merchantId) ↔
      ¬(provisioned = .ok () ∧
        LateRefusal processes (1 + executor.sparedKeys) permit.grantedRequests ⟨0, 0⟩) := by
  have holding : Holding (executor.forget.admitMission (grantOf permit)) (grantOf permit) :=
    ⟨rfl, rfl, rfl⟩
  cases provisioned with
  | error exception =>
      have done := IsolatedMissionExecutor.settle_of_holding holding .release
      have told : (executor.carryOut permit (.error exception) processes
          merchantId).settlements = [(permit.id, .release)] := done.told
      have noRequest : (executor.carryOut permit (.error exception) processes
          merchantId).requests = 0 :=
        IsolatedMissionExecutor.settle_requests _ _
      rw [spendCounted_iff_charge stored isReserved inOrder told, noRequest]
      simp
  | ok =>
      have keysEq : (⟨0, 0⟩ : Place).tried + 1 +
          (executor.forget.admitMission (grantOf permit)).sparedKeys = 1 + executor.sparedKeys := by
        rw [Nat.zero_add]
        rfl
      have counted : ChargedFrom processes (1 + executor.sparedKeys) (grantOf permit) ⟨0, 0⟩
          ((executor.forget.admitMission (grantOf permit)).attempted processes executor.sparedKeys
            0 0 (some permit.grantedRequests)).1 :=
        attempted_charge holding rfl (Nat.zero_le _) rfl keysEq
      obtain ⟨settlement, done, charged⟩ := counted
      obtain ⟨fault, credentials, finalEq⟩ :=
        (executor.forget.admitMission (grantOf permit)).call_provisioned processes merchantId
      have told : (executor.carryOut permit (.ok ()) processes merchantId).settlements =
          [(permit.id, settlement)] := by
        rw [IsolatedMissionExecutor.carryOut, finalEq]
        exact done.told
      have requestsEq : (executor.carryOut permit (.ok ()) processes merchantId).requests =
          ((executor.forget.admitMission (grantOf permit)).attempted processes executor.sparedKeys
            0 0 (some permit.grantedRequests)).1.requests := by
        rw [IsolatedMissionExecutor.carryOut, finalEq]
        exact IsolatedMissionExecutor.settle_requests _ _
      have grantEq : (grantOf permit).grantedRequests = permit.grantedRequests := rfl
      rw [grantEq] at charged
      rw [spendCounted_iff_charge stored isReserved inOrder told, requestsEq, charged]
      simp

end Mission

/-! ## A refused retry -/

section Sample

theorem reserved_consumes_nothing :
    PermitState.reserved = .reconciled ↔ (none : Option Nat).isSome = true := by
  simp

theorem reserved_not_closed :
    PermitState.reserved ≠ .reserved ↔ (none : Option Instant).isSome = true := by
  simp

/-- A permit for six requests. -/
def refusedPermit : ProviderExecutionPermit where
  id := 7
  merchantId := 1
  launchId := none
  runId := 5
  missionKey := "charger"
  attempt := 1
  attemptKey := permitAttemptKey 5 "charger" 1
  provider := .gemini
  requestedModel := "model"
  policyVersion := 1
  grantedRequests := 6
  consumedRequests := none
  state := .reserved
  openedAt := 0
  closedAt := none
  grantPositive := by decide
  consumptionShape := reserved_consumes_nothing
  consumptionBounded := by rintro _ ⟨⟩
  closedShape := reserved_not_closed
  closeAfterOpen := by rintro _ ⟨⟩

def refusedLedger : PermitLedger where
  policies := .empty
  permits := ⟨[refusedPermit], by decide⟩
  answers := []

/-- An executor that may hand out the given keys. -/
def refusedExecutor (credentials : Option ProviderCredentialRotation) :
    IsolatedMissionExecutor where
  credentials := credentials
  timeout := "120.0"
  grant := none
  settled := true
  fault := none
  agentEvidence := none
  served := []
  settlements := []
  requests := 0

/-- A worker whose provider refuses it its first request. -/
def refusedByProvider (handed : Option Nat) : WorkerProcess handed where
  ending :=
    .exited 0
      (.document
        { agentEvidence :=
            .ok
              (some
                { events :=
                    [{ eventType := "AGENT_ABORT"
                       payload :=
                        [("reason", .scalar (.string "provider_unavailable"))] }] })
          providerAttempts := .ok (some (min 1 (handed.getD 1)))
          report := .ok { merchantId := 1 } })
      ""
  served := []
  requests := min 1 (handed.getD 1)
  withinGrant := by
    rintro granted rfl
    exact Nat.min_le_right _ _
  noMissionNoRequest := by simp [WorkerEnding.readNoMission, exitNotIsolated, exitProtocol]
  truthful := by
    rintro _ _ _ ⟨⟩ ⟨⟩
    rfl

/-- A process that could not be started. -/
def neverStarted (handed : Option Nat) : WorkerProcess handed where
  ending := .unstartable "Cannot allocate memory"
  served := []
  requests := 0
  withinGrant := by
    intro granted _
    exact Nat.zero_le _
  noMissionNoRequest := fun _ => rfl
  truthful := by rintro _ _ _ ⟨⟩

/-- The mission spent a request of its first process, and its permit was released. -/
theorem released_after_spending :
    ¬SpendCounted refusedLedger refusedPermit 1
      ((refusedExecutor (some ⟨["first", "second"], 0, by simp⟩)).carryOut refusedPermit (.ok ())
        (fun tried handed => if tried = 0 then refusedByProvider handed else neverStarted handed)
        1) := by
  rintro ⟨settlement, row, told, rowEq, _, counted, _⟩
  cases told
  cases rowEq
  revert counted
  decide

/-- One process that could not be started spends nothing, and is charged nothing. -/
theorem spend_counted_iff_sample :
    SpendCounted refusedLedger refusedPermit 1
      ((refusedExecutor none).carryOut refusedPermit (.ok ())
        (fun _ handed => neverStarted handed) 1) := by
  apply (spend_counted_iff (by rfl) rfl (by decide) _ _ _ _).mpr
  rintro ⟨_, later, reached, spent, _⟩
  have nowhere : later = ⟨0, 0⟩ := by
    rcases Relation.ReflTransGen.cases_head_iff.mp reached with rfl | ⟨_, retried, _⟩
    · rfl
    · obtain ⟨_, _, _, clean, _⟩ := cleanReport_of_retries retried
      cases clean
  rw [nowhere] at spent
  exact Nat.not_succ_le_zero 0 spent

end Sample

end AgentRank.Benchmark
