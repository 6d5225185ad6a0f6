import AgentRank.Benchmark.Permits

/-!
# What the permit ledger bounds

A permit is opened once and settled at most once, and a settlement never raises what it
charges.  So a sum that was read under the lock of a provider is still a bound when the
permit is written: in between, nobody else opens a permit of that provider.
-/

namespace AgentRank.Benchmark

open Relational Store Transition

/-- A permit that is settled or not, of the same reservation. -/
structure SameReservation (row permit : ProviderExecutionPermit) : Prop where
  id : row.id = permit.id
  runId : row.runId = permit.runId
  attemptKey : row.attemptKey = permit.attemptKey
  provider : row.provider = permit.provider
  openedAt : row.openedAt = permit.openedAt
  grantedRequests : row.grantedRequests = permit.grantedRequests

section Settled

variable {permit : ProviderExecutionPermit} {isReserved : permit.state = .reserved}
  {closedAt : Instant} {inOrder : permit.openedAt ≤ closedAt} {settlement : Settlement}

theorem settledPermit_same :
    SameReservation (settledPermit permit isReserved closedAt inOrder settlement) permit := by
  cases settlement with
  | reconcile | assumeSpent | release => exact ⟨rfl, rfl, rfl, rfl, rfl, rfl⟩

/-- A settlement never charges more than the reservation did. -/
theorem settledPermit_charged_le :
    (settledPermit permit isReserved closedAt inOrder settlement).chargedRequests ≤
      permit.chargedRequests := by
  rw [ProviderExecutionPermit.chargedRequests_of_reserved isReserved,
    ← settledPermit_same.grantedRequests]
  exact ProviderExecutionPermit.chargedRequests_le _

end Settled

variable {permit : ProviderExecutionPermit} {request : ReserveRequest} {transactionTime : Instant}

theorem newPermit?_eq_some {broker : RunPermitBroker} {granted : Int}
    (isNew : newPermit? broker request transactionTime granted = some permit) :
    permit.runId = request.runId ∧ permit.attemptKey = request.attemptKey ∧
      permit.provider = broker.provider ∧ permit.openedAt = transactionTime ∧
      (permit.grantedRequests : Int) = granted ∧ permit.state = .reserved := by
  unfold newPermit? at isNew
  split at isNew
  · next positive =>
      cases isNew
      exact ⟨rfl, rfl, rfl, rfl, Int.toNat_of_nonneg (by omega), rfl⟩
  · cases isNew

theorem byAttempt_eq_none_iff {ledger : PermitLedger} {runId : Uuid} {attemptKey : String} :
    ledger.byAttempt runId attemptKey = none ↔
      ∀ permit ∈ ledger.permits, permit.runId = runId → permit.attemptKey ≠ attemptKey := by
  simp [PermitLedger.byAttempt, List.find?_eq_none, Table.mem_def]

/-! ## What one stage does to the permits -/

section Steps

variable (brokers : Uuid → RunPermitBroker)

/-- What a stage does to the permits. -/
inductive PermitStep (stage : PermitStage) (permits : Table ProviderExecutionPermit) :
    Table ProviderExecutionPermit → Prop
  | untouched : PermitStep stage permits permits
  | settled (permit : ProviderExecutionPermit) (member : permit ∈ permits)
      (isReserved : permit.state = .reserved) (closedAt : Instant)
      (inOrder : permit.openedAt ≤ closedAt) (settlement : Settlement) :
      PermitStep stage permits
        (permits.set (settledPermit permit isReserved closedAt inOrder settlement))
  | opened (request : ReserveRequest) (transactionTime : Instant) (granted : Int)
      (permit : ProviderExecutionPermit) (result : Table ProviderExecutionPermit)
      (isInsert : stage = .insert request transactionTime granted)
      (isNew : newPermit? (brokers request.runId) request transactionTime granted = some permit)
      (attemptFree : ∀ other ∈ permits, other.runId = request.runId →
        other.attemptKey ≠ request.attemptKey)
      (inserted : permits.insert? permit = some result) :
      PermitStep stage permits result

variable {brokers} {stage : PermitStage} {ledger : PermitLedger} {now : Instant}

theorem settle_step {permitId : Uuid} {settlement : Settlement} :
    PermitStep brokers stage ledger.permits (settle ledger permitId settlement now).permits ∧
      (settle ledger permitId settlement now).policies = ledger.policies := by
  unfold settle
  split
  · exact ⟨PermitStep.untouched, rfl⟩
  · next permit found =>
      have member := (Table.get?_eq_some_iff.mp found).1
      split
      · next isReserved =>
          split
          · next inOrder =>
              exact ⟨PermitStep.settled permit member isReserved now inOrder settlement, rfl⟩
          · exact ⟨PermitStep.untouched, rfl⟩
      · exact ⟨PermitStep.untouched, rfl⟩

theorem insertPermit_step {granted : Int} :
    PermitStep brokers (.insert request transactionTime granted) ledger.permits
        (insertPermit brokers ledger request transactionTime granted).1.permits ∧
      (insertPermit brokers ledger request transactionTime granted).1.policies =
        ledger.policies := by
  unfold insertPermit
  split
  · exact ⟨PermitStep.untouched, rfl⟩
  · next permit isNew =>
      split
      · exact ⟨PermitStep.untouched, rfl⟩
      · next free =>
          split
          · exact ⟨PermitStep.untouched, rfl⟩
          · next permits inserted =>
              exact ⟨PermitStep.opened request transactionTime granted permit permits rfl isNew
                (byAttempt_eq_none_iff.mp free) inserted, rfl⟩

/-- Whatever a stage does to the permits is a step, and it writes no policy. -/
theorem PermitStage.act_moves :
    PermitStep brokers stage ledger.permits (stage.act brokers now ledger).1.permits ∧
      (stage.act brokers now ledger).1.policies = ledger.policies := by
  cases stage with
  | begin call =>
      cases call with
      | reserve request => exact ⟨PermitStep.untouched, rfl⟩
      | settle permitId settlement => exact settle_step
  | lock => exact ⟨PermitStep.untouched, rfl⟩
  | readAttempt request transactionTime =>
      change PermitStep _ _ _ (Benchmark.readAttempt ledger request transactionTime).1.permits ∧
        (Benchmark.readAttempt ledger request transactionTime).1.policies = _
      unfold Benchmark.readAttempt
      split
      · exact ⟨PermitStep.untouched, rfl⟩
      · split
        · exact ⟨PermitStep.untouched, rfl⟩
        · exact ⟨PermitStep.untouched, rfl⟩
  | readPolicy request transactionTime =>
      change PermitStep _ _ _
          (Benchmark.readPolicy brokers ledger request transactionTime).1.permits ∧
        (Benchmark.readPolicy brokers ledger request transactionTime).1.policies = _
      unfold Benchmark.readPolicy
      dsimp only
      split
      · exact ⟨PermitStep.untouched, rfl⟩
      · exact ⟨PermitStep.untouched, rfl⟩
  | readRun request transactionTime policy =>
      change PermitStep _ _ _
          (Benchmark.readRun brokers ledger request transactionTime policy).1.permits ∧
        (Benchmark.readRun brokers ledger request transactionTime policy).1.policies = _
      unfold Benchmark.readRun
      dsimp only
      split
      · exact ⟨PermitStep.untouched, rfl⟩
      · exact ⟨PermitStep.untouched, rfl⟩
  | readWindow request transactionTime policy launchRemaining =>
      change PermitStep _ _ _
          (Benchmark.readWindow brokers ledger request transactionTime policy
            launchRemaining).1.permits ∧
        (Benchmark.readWindow brokers ledger request transactionTime policy
          launchRemaining).1.policies = _
      unfold Benchmark.readWindow
      dsimp only
      split
      · exact ⟨PermitStep.untouched, rfl⟩
      · split
        · exact ⟨PermitStep.untouched, rfl⟩
        · exact ⟨PermitStep.untouched, rfl⟩
  | insert request transactionTime granted => exact insertPermit_step
  | reread request =>
      change PermitStep _ _ _ (Benchmark.reread ledger request).1.permits ∧
        (Benchmark.reread ledger request).1.policies = _
      unfold Benchmark.reread
      split
      · exact ⟨PermitStep.untouched, rfl⟩
      · exact ⟨PermitStep.untouched, rfl⟩

theorem PermitStage.act_step :
    PermitStep brokers stage ledger.permits (stage.act brokers now ledger).1.permits :=
  PermitStage.act_moves.1

/-! ## What a step does to a sum -/

/-- A kind of permits that no settlement moves a permit into or out of. -/
def CountsReservations (counts : ProviderExecutionPermit → Bool) : Prop :=
  ∀ row permit, SameReservation row permit → counts row = counts permit

variable {permits next : Table ProviderExecutionPermit}
  {counts : ProviderExecutionPermit → Bool}

/-- A settlement never raises a sum. -/
theorem chargeSum_settled_le (frozen : CountsReservations counts) (member : permit ∈ permits)
    {isReserved : permit.state = .reserved} {closedAt : Instant}
    {inOrder : permit.openedAt ≤ closedAt} {settlement : Settlement} :
    chargeSum (permits.set (settledPermit permit isReserved closedAt inOrder settlement)) counts ≤
      chargeSum permits counts := by
  have same : SameReservation
      (settledPermit permit isReserved closedAt inOrder settlement) permit :=
    settledPermit_same
  have moved := Table.total_set
    (fun permit => if counts permit then permit.chargedRequests else 0) member same.id.symm
  have less : (settledPermit permit isReserved closedAt inOrder settlement).chargedRequests ≤
      permit.chargedRequests :=
    settledPermit_charged_le
  rw [frozen _ _ same] at moved
  unfold chargeSum
  split at moved
  · omega
  · omega

/-- A reservation raises a sum by its grant, when it is of the kind. -/
theorem chargeSum_opened (isReserved : permit.state = .reserved)
    (inserted : permits.insert? permit = some next) :
    chargeSum next counts =
      chargeSum permits counts + if counts permit then permit.grantedRequests else 0 := by
  unfold chargeSum
  rw [Table.total_of_rows_append (Table.insert?_eq_some_iff.mp inserted).2,
    ProviderExecutionPermit.chargedRequests_of_reserved isReserved]

/-- A step that opens no permit of a kind does not raise its sum. -/
theorem PermitStep.chargeSum_le (step : PermitStep brokers stage permits next)
    (frozen : CountsReservations counts)
    (spared : ∀ request transactionTime granted permit,
      stage = .insert request transactionTime granted →
        newPermit? (brokers request.runId) request transactionTime granted = some permit →
          counts permit = false) :
    chargeSum next counts ≤ chargeSum permits counts := by
  cases step with
  | untouched => exact le_rfl
  | settled permit member => exact chargeSum_settled_le frozen member
  | opened request transactionTime granted permit result isInsert isNew attemptFree inserted =>
      have isReserved := (newPermit?_eq_some isNew).2.2.2.2.2
      have notCounted := spared request transactionTime granted permit isInsert isNew
      rw [chargeSum_opened isReserved inserted, notCounted]
      exact le_rfl

/-- The stage that writes a permit raises a sum by the grant at most. -/
theorem PermitStep.chargeSum_le_add {granted : Int}
    (step : PermitStep brokers (.insert request transactionTime granted) permits next)
    (frozen : CountsReservations counts) :
    (chargeSum next counts : Int) ≤ chargeSum permits counts + max 0 granted := by
  cases step with
  | untouched => omega
  | settled permit member isReserved closedAt inOrder settlement =>
      have less :
          chargeSum (permits.set (settledPermit permit isReserved closedAt inOrder settlement))
            counts ≤ chargeSum permits counts :=
        chargeSum_settled_le frozen member
      omega
  | opened request transactionTime granted permit result isInsert isNew attemptFree inserted =>
      cases isInsert
      obtain ⟨_, _, _, _, sameGrant, isReserved⟩ := newPermit?_eq_some isNew
      rw [chargeSum_opened isReserved inserted]
      split
      · omega
      · omega

/-- No two permits of a run carry one attempt. -/
def OneAttempt (permits : Table ProviderExecutionPermit) : Prop :=
  ∀ first ∈ permits, ∀ second ∈ permits, first.runId = second.runId →
    first.attemptKey = second.attemptKey → first = second

theorem PermitStep.oneAttempt (step : PermitStep brokers stage permits next)
    (before : OneAttempt permits) : OneAttempt next := by
  cases step with
  | untouched => exact before
  | settled permit member isReserved closedAt inOrder settlement =>
      have same : SameReservation
          (settledPermit permit isReserved closedAt inOrder settlement) permit :=
        settledPermit_same
      intro first firstMem second secondMem sameRun sameKey
      rcases (Table.mem_set_iff_ne member same.id.symm).mp firstMem with
          rfl | ⟨firstOld, firstOther⟩ <;>
        rcases (Table.mem_set_iff_ne member same.id.symm).mp secondMem with
          rfl | ⟨secondOld, secondOther⟩
      · rfl
      · have isSecond := before permit member second secondOld
          (same.runId.symm.trans sameRun) (same.attemptKey.symm.trans sameKey)
        exact absurd isSecond.symm secondOther
      · have isFirst := before first firstOld permit member
          (sameRun.trans same.runId) (sameKey.trans same.attemptKey)
        exact absurd isFirst firstOther
      · exact before first firstOld second secondOld sameRun sameKey
  | opened request transactionTime granted permit result isInsert isNew attemptFree inserted =>
      obtain ⟨newRun, newKey, _⟩ := newPermit?_eq_some isNew
      intro first firstMem second secondMem sameRun sameKey
      rcases (Table.mem_insert?_iff inserted).mp firstMem with firstOld | rfl <;>
        rcases (Table.mem_insert?_iff inserted).mp secondMem with secondOld | rfl
      · exact before first firstOld second secondOld sameRun sameKey
      · exact absurd (sameKey.trans newKey) (attemptFree first firstOld (sameRun.trans newRun))
      · exact absurd (sameKey.symm.trans newKey)
          (attemptFree second secondOld (sameRun.symm.trans newRun))
      · rfl

/-- What holds of every reservation and stays true when it is settled. -/
theorem PermitStep.forall_mem {property : ProviderExecutionPermit → Prop}
    (step : PermitStep brokers stage permits next)
    (settled : ∀ row permit, SameReservation row permit → property permit → property row)
    (opened : ∀ request transactionTime granted permit,
      stage = .insert request transactionTime granted →
        newPermit? (brokers request.runId) request transactionTime granted = some permit →
          property permit)
    (before : ∀ permit ∈ permits, property permit) : ∀ permit ∈ next, property permit := by
  cases step with
  | untouched => exact before
  | settled permit member isReserved closedAt inOrder settlement =>
      intro row rowMem
      rcases (Table.mem_set_iff_ne member settledPermit_same.id.symm).mp rowMem with
        rfl | ⟨old, _⟩
      · exact settled _ permit settledPermit_same (before permit member)
      · exact before row old
  | opened request transactionTime granted permit result isInsert isNew attemptFree inserted =>
      intro row rowMem
      rcases (Table.mem_insert?_iff inserted).mp rowMem with old | rfl
      · exact before row old
      · exact opened request transactionTime granted row isInsert isNew

end Steps

/-! ## One budget for each run -/

section Bounds

variable (brokers : Uuid → RunPermitBroker)

/-- What holds of the permits at every moment. -/
structure LedgerGood (ledger : PermitLedger) : Prop where
  provider : ∀ permit ∈ ledger.permits, permit.provider = (brokers permit.runId).provider
  attemptKey : ∀ permit ∈ ledger.permits, ∃ missionKey attempt,
    permit.attemptKey = permitAttemptKey permit.runId missionKey attempt
  oneAttempt : OneAttempt ledger.permits
  grants : ∀ permit ∈ ledger.permits,
    (brokers permit.runId).budget.maxModelTurns ≤ permit.grantedRequests ∧
      permit.grantedRequests ≤ (brokers permit.runId).budget.maxRequestsPerMission
  budget : ∀ runId, ledger.runCharge runId ≤ (brokers runId).budget.maxProviderRequests

/-- What a reservation relies on between its statements: what it read is still a bound. -/
def ReserveGood (ledger : PermitLedger) : PermitStage → Prop
  | .readWindow request _ _ launchRemaining =>
      ((brokers request.runId).budget.maxModelTurns : Int) ≤ launchRemaining ∧
        launchRemaining + ledger.runCharge request.runId ≤
          (brokers request.runId).budget.maxProviderRequests
  | .insert request _ granted =>
      ((brokers request.runId).budget.maxModelTurns : Int) ≤ granted ∧
        granted ≤ (brokers request.runId).budget.maxRequestsPerMission ∧
        granted + ledger.runCharge request.runId ≤
          (brokers request.runId).budget.maxProviderRequests
  | _ => True

/-- Two stages never hold the lock of one provider. -/
def PermitStage.Apart (first second : PermitStage) : Prop :=
  ∀ provider, first.holds brokers = some provider → second.holds brokers ≠ some provider

/-- What reservations rely on, for the budgets of their runs. -/
def budgetDiscipline : System.Discipline PermitLedger PermitStage where
  shared := LedgerGood brokers
  relies := ReserveGood brokers
  apart := PermitStage.Apart brokers

variable {brokers} {stage other : PermitStage} {ledger after : PermitLedger}

theorem counts_run (runId : Uuid) :
    CountsReservations fun permit => permit.runId = runId := by
  intro row permit same
  simp only [same.runId]

/-- Beside a client at the lock of its provider, the charge of a run never rises. -/
theorem runCharge_le_of_apart (step : PermitStep brokers stage ledger.permits after.permits)
    {runId : Uuid} (holds : other.holds brokers = some (brokers runId).provider)
    (apart : stage.Apart brokers other) : after.runCharge runId ≤ ledger.runCharge runId := by
  apply step.chargeSum_le (counts_run runId)
  rintro request transactionTime granted permit rfl isNew
  have sameRun : permit.runId = request.runId := (newPermit?_eq_some isNew).1
  rw [decide_eq_false_iff_not, sameRun]
  rintro rfl
  exact apart _ rfl holds

/-- A step keeps what holds of the permits. -/
theorem LedgerGood.step (good : LedgerGood brokers ledger)
    (step : PermitStep brokers stage ledger.permits after.permits)
    (relies : ReserveGood brokers ledger stage) : LedgerGood brokers after where
  provider := by
    apply step.forall_mem _ _ good.provider
    · intro row permit same holds
      rw [same.provider, same.runId, holds]
    · intro request transactionTime granted permit _ isNew
      obtain ⟨sameRun, _, sameProvider, _⟩ := newPermit?_eq_some isNew
      rw [sameProvider, sameRun]
  attemptKey := by
    apply step.forall_mem _ _ good.attemptKey
    · rintro row permit same ⟨missionKey, attempt, written⟩
      exact ⟨missionKey, attempt, by rw [same.attemptKey, same.runId, written]⟩
    · intro request transactionTime granted permit _ isNew
      obtain ⟨sameRun, sameKey, _⟩ := newPermit?_eq_some isNew
      exact ⟨request.missionKey, request.attempt, by rw [sameKey, sameRun]; rfl⟩
  oneAttempt := step.oneAttempt good.oneAttempt
  grants := by
    apply step.forall_mem _ _ good.grants
    · intro row permit same holds
      rw [same.runId, same.grantedRequests]
      exact holds
    · rintro request transactionTime granted permit rfl isNew
      obtain ⟨sameRun, _, _, _, sameGrant, _⟩ := newPermit?_eq_some isNew
      obtain ⟨turns, mission, _⟩ := relies
      rw [sameRun]
      omega
  budget := by
    intro runId
    by_cases isInsert : ∃ request transactionTime granted,
        stage = .insert request transactionTime granted ∧ request.runId = runId
    · obtain ⟨request, transactionTime, granted, rfl, rfl⟩ := isInsert
      obtain ⟨_, _, fits⟩ := relies
      have rises := step.chargeSum_le_add (counts_run request.runId)
      unfold PermitLedger.runCharge at fits ⊢
      omega
    · apply le_trans _ (good.budget runId)
      apply step.chargeSum_le (counts_run runId)
      rintro request transactionTime granted permit rfl isNew
      have sameRun : permit.runId = request.runId := (newPermit?_eq_some isNew).1
      rw [decide_eq_false_iff_not, sameRun]
      intro isRun
      exact isInsert ⟨request, transactionTime, granted, rfl, isRun⟩

/-- A stage leaves what the next one relies on. -/
theorem ReserveGood.next {now : Instant} {next : PermitStage}
    (relies : ReserveGood brokers ledger stage)
    (goesOn : (stage.act brokers now ledger).2 = some next) :
    ReserveGood brokers (stage.act brokers now ledger).1 next := by
  cases stage with
  | begin call =>
      cases call with
      | reserve request =>
          cases goesOn
          trivial
      | settle permitId settlement => cases goesOn
  | lock request transactionTime =>
      cases goesOn
      trivial
  | readAttempt request transactionTime =>
      obtain ⟨rfl, _⟩ := readAttempt_next goesOn
      trivial
  | readPolicy request transactionTime =>
      obtain ⟨rfl, _⟩ := readPolicy_next goesOn
      trivial
  | readRun request transactionTime policy =>
      obtain ⟨launchRemaining, rfl, same, turns, fits⟩ := readRun_next goesOn
      change ReserveGood brokers
        (Benchmark.readRun brokers ledger request transactionTime policy).1 _
      rw [same]
      exact ⟨turns, le_of_eq fits⟩
  | readWindow request transactionTime policy launchRemaining =>
      obtain ⟨turns, fits⟩ := relies
      obtain ⟨granted, rfl, same, grantTurns, mission, launch, _⟩ := readWindow_next goesOn
      change ReserveGood brokers
        (Benchmark.readWindow brokers ledger request transactionTime policy
          launchRemaining).1 _
      rw [same]
      exact ⟨grantTurns turns, mission, by omega⟩
  | insert request transactionTime granted =>
      obtain rfl := insertPermit_next goesOn
      trivial
  | reread request => exact absurd goesOn reread_over

/-- What other clients do keeps what a reservation relies on. -/
theorem ReserveGood.others (relies : ReserveGood brokers ledger other)
    (step : PermitStep brokers stage ledger.permits after.permits)
    (apart : stage.Apart brokers other) : ReserveGood brokers after other := by
  cases other with
  | begin | lock | readAttempt | readPolicy | readRun | reread => trivial
  | readWindow request transactionTime policy launchRemaining =>
      obtain ⟨turns, fits⟩ := relies
      have less : after.runCharge request.runId ≤ ledger.runCharge request.runId :=
        runCharge_le_of_apart step rfl apart
      exact ⟨turns, by omega⟩
  | insert request transactionTime granted =>
      obtain ⟨turns, mission, fits⟩ := relies
      have less : after.runCharge request.runId ≤ ledger.runCharge request.runId :=
        runCharge_le_of_apart step rfl apart
      exact ⟨turns, mission, by omega⟩

theorem writePolicy_permits (row : ProviderCapacityPolicy) (ledger : PermitLedger) :
    (writePolicy row ledger).permits = ledger.permits := by
  unfold writePolicy
  split
  · rfl
  · rfl

/-- A policy that is written is a stage of nobody. -/
theorem writePolicy_step (row : ProviderCapacityPolicy) (ledger : PermitLedger) :
    PermitStep brokers (.begin (.settle 0 .release)) ledger.permits
      (writePolicy row ledger).permits := by
  rw [writePolicy_permits]
  exact PermitStep.untouched

theorem begin_apart (call : PermitCall) (other : PermitStage) :
    (PermitStage.begin call).Apart brokers other := by
  rintro _ ⟨⟩

/-- Every stage keeps what the budgets rest on. -/
theorem permitSystem_keeps_budgets (occurs : ProviderCapacityPolicy → Prop) :
    System.Keeps (permitSystem brokers) (permitLocks brokers occurs)
      (budgetDiscipline brokers) where
  symmetric apart provider secondHolds firstHolds := apart provider firstHolds secondHolds
  enterRelies _ _ _ := trivial
  enterApart := begin_apart
  actShared _ _ _ good relies := good.step PermitStage.act_step relies
  actRelies _ _ _ _ _ relies goesOn := relies.next goesOn
  actOthers _ _ _ _ _ _ others apart := others.others PermitStage.act_step apart
  actApart _ _ _ _ _ _ _ _ _ _ beside := beside
  outsideShared row ledger _ good := good.step (writePolicy_step row ledger) trivial
  outsideOthers row ledger other _ _ relies :=
    relies.others (writePolicy_step row ledger) (begin_apart _ other)

/-- Every reservation is still there, charges no more than it did, and stays as it is
once it is settled. -/
def Follows (earlier later : Table ProviderExecutionPermit) : Prop :=
  ∀ permit ∈ earlier, ∃ row ∈ later, SameReservation row permit ∧
    row.chargedRequests ≤ permit.chargedRequests ∧ (permit.state ≠ .reserved → row = permit)

theorem SameReservation.trans {first middle last : ProviderExecutionPermit}
    (later : SameReservation last middle) (earlier : SameReservation middle first) :
    SameReservation last first :=
  ⟨later.id.trans earlier.id, later.runId.trans earlier.runId,
    later.attemptKey.trans earlier.attemptKey, later.provider.trans earlier.provider,
    later.openedAt.trans earlier.openedAt, later.grantedRequests.trans earlier.grantedRequests⟩

theorem Follows.refl (permits : Table ProviderExecutionPermit) : Follows permits permits :=
  fun permit member => ⟨permit, member, ⟨rfl, rfl, rfl, rfl, rfl, rfl⟩, le_rfl, fun _ => rfl⟩

theorem Follows.trans {first middle last : Table ProviderExecutionPermit}
    (earlier : Follows first middle) (later : Follows middle last) : Follows first last := by
  intro permit member
  obtain ⟨row, rowMem, same, less, stays⟩ := earlier permit member
  obtain ⟨final, finalMem, finalSame, finalLess, finalStays⟩ := later row rowMem
  refine ⟨final, finalMem, finalSame.trans same, finalLess.trans less, ?_⟩
  intro isSettled
  have isRow := stays isSettled
  rw [finalStays (by rw [isRow]; exact isSettled), isRow]

theorem PermitStep.follows {permits next : Table ProviderExecutionPermit}
    (step : PermitStep brokers stage permits next) : Follows permits next := by
  cases step with
  | untouched => exact Follows.refl permits
  | settled permit member isReserved closedAt inOrder settlement =>
      have same : SameReservation
          (settledPermit permit isReserved closedAt inOrder settlement) permit :=
        settledPermit_same
      intro old oldMem
      by_cases isOld : old = permit
      · subst isOld
        refine ⟨_, (Table.mem_set_iff_ne member same.id.symm).mpr (Or.inl rfl), same,
          settledPermit_charged_le, ?_⟩
        exact fun isSettled => absurd isReserved isSettled
      · refine ⟨old, (Table.mem_set_iff_ne member same.id.symm).mpr (Or.inr ⟨oldMem, isOld⟩),
          ⟨rfl, rfl, rfl, rfl, rfl, rfl⟩, le_rfl, fun _ => rfl⟩
  | opened request transactionTime granted permit result isInsert isNew attemptFree inserted =>
      intro old oldMem
      exact ⟨old, (Table.mem_insert?_iff inserted).mpr (Or.inl oldMem),
        ⟨rfl, rfl, rfl, rfl, rfl, rfl⟩, le_rfl, fun _ => rfl⟩

/-- The permits of one world follow those of another. -/
def WorldFollows (earlier later : World PermitLedger PermitStage) : Prop :=
  Benchmark.Follows earlier.shared.permits later.shared.permits

/-- Whatever happens next, every reservation goes on. -/
theorem step_follows (world : World PermitLedger PermitStage)
    (event : Event PermitCall Instant ProviderCapacityPolicy) :
    WorldFollows world ((permitSystem brokers).step event world) := by
  cases event with
  | arrive client call =>
      cases isFree : world.clients client with
      | some stage =>
          simp only [System.step, isFree]
          exact Follows.refl world.shared.permits
      | none =>
          simp only [System.step, isFree]
          exact Follows.refl world.shared.permits
  | act client now =>
      cases busy : world.clients client with
      | none =>
          simp only [System.step, busy]
          exact Follows.refl world.shared.permits
      | some stage =>
          simp only [System.step, busy]
          have moved : PermitStep brokers stage world.shared.permits
              (stage.act brokers now world.shared).1.permits :=
            PermitStage.act_step
          exact moved.follows
  | crash client => exact Follows.refl world.shared.permits
  | outside row =>
      have moved : PermitStep brokers (.begin (.settle 0 .release)) world.shared.permits
          (writePolicy row world.shared).permits :=
        writePolicy_step row world.shared
      exact moved.follows

/-- Every run leaves every reservation. -/
theorem run_follows (world : World PermitLedger PermitStage)
    (events : List (Event PermitCall Instant ProviderCapacityPolicy)) :
    WorldFollows world (run (permitSystem brokers).step world events) :=
  run_relation_of_step events (fun world => Follows.refl world.shared.permits)
    (fun earlier later => Follows.trans earlier later) step_follows

/-- The ledger before anything was reserved. -/
def PermitLedger.opening (policies : Table ProviderCapacityPolicy) : PermitLedger where
  policies := policies
  permits := .empty
  answers := []

theorem ledgerGood_opening (policies : Table ProviderCapacityPolicy) :
    LedgerGood brokers (PermitLedger.opening policies) where
  provider permit member := absurd member (Table.not_mem_empty permit)
  attemptKey permit member := absurd member (Table.not_mem_empty permit)
  oneAttempt permit member := absurd member (Table.not_mem_empty permit)
  grants permit member := absurd member (Table.not_mem_empty permit)
  budget _ := Nat.zero_le _

/-- The key of an attempt names its run. -/
theorem permitAttemptKey_run {firstRun secondRun : Uuid} {firstMission secondMission : String}
    {firstAttempt secondAttempt : Nat}
    (same : permitAttemptKey firstRun firstMission firstAttempt =
      permitAttemptKey secondRun secondMission secondAttempt) : firstRun = secondRun := by
  have written : ∀ (runId : Uuid) (missionKey : String) (attempt : Nat),
      permitAttemptKey runId missionKey attempt =
        toString runId ++ (":" ++ missionKey ++ ":" ++ toString attempt) := by
    intro runId missionKey attempt
    simp only [permitAttemptKey, toString, String.append_assoc]
  have sameList := congrArg String.toList same
  simp only [written, String.toList_append, Uuid.toList_toString] at sameList
  apply Uuid.chars_injective
  exact (List.append_inj sameList ((Uuid.length_chars _).trans (Uuid.length_chars _).symm)).1

/-- However reservations and settlements interleave: a run is never charged more than its
budget, a grant covers every turn of a mission and no more than the mission may take, one
attempt has one permit, and a permit never charges more later, nor anything else once it
is settled. -/
theorem run_charged_within_budget {policies : Table ProviderCapacityPolicy}
    {before after : List (Event PermitCall Instant ProviderCapacityPolicy)}
    (locked : Guarded (permitSystem brokers).step
      ((permitSystem brokers).Allowed (permitLocks brokers fun _ => True))
      (World.opening (PermitLedger.opening policies)) (before ++ after)) :
    let earlier :=
      (run (permitSystem brokers).step (World.opening (PermitLedger.opening policies))
        before).shared
    let later :=
      (run (permitSystem brokers).step (World.opening (PermitLedger.opening policies))
        (before ++ after)).shared
    (∀ runId, later.runCharge runId ≤ (brokers runId).budget.maxProviderRequests) ∧
    (∀ permit ∈ later.permits,
      (brokers permit.runId).budget.maxModelTurns ≤ permit.grantedRequests ∧
        permit.grantedRequests ≤ (brokers permit.runId).budget.maxRequestsPerMission) ∧
    (∀ first ∈ later.permits, ∀ second ∈ later.permits,
      first.attemptKey = second.attemptKey → first = second) ∧
    (∀ permit ∈ earlier.permits, ∃ row ∈ later.permits,
      row.id = permit.id ∧ row.chargedRequests ≤ permit.chargedRequests ∧
        (permit.state ≠ .reserved → row = permit)) := by
  intro earlier later
  have obeys : System.Obeys (budgetDiscipline brokers)
      (run (permitSystem brokers).step (World.opening (PermitLedger.opening policies))
        (before ++ after)) :=
    (System.obeys_opening (ledgerGood_opening policies)).run
      (permitSystem_keeps_budgets fun _ => True) locked
  have good : LedgerGood brokers later := obeys.shared
  have follows : WorldFollows
      (run (permitSystem brokers).step (World.opening (PermitLedger.opening policies)) before)
      (run (permitSystem brokers).step (World.opening (PermitLedger.opening policies))
        (before ++ after)) := by
    rw [run_append]
    exact run_follows _ after
  refine ⟨good.budget, good.grants, ?_, ?_⟩
  · intro first firstMem second secondMem sameKey
    obtain ⟨firstMission, firstAttempt, firstKey⟩ := good.attemptKey first firstMem
    obtain ⟨secondMission, secondAttempt, secondKey⟩ := good.attemptKey second secondMem
    have sameRun := permitAttemptKey_run (firstKey.symm.trans (sameKey.trans secondKey))
    exact good.oneAttempt first firstMem second secondMem sameRun sameKey
  · intro permit member
    obtain ⟨row, rowMem, same, less, stays⟩ := follows permit member
    exact ⟨row, rowMem, same.id, less, stays⟩

end Bounds

section Sample

def samplePolicyRow : ProviderCapacityPolicy where
  provider := .openai
  version := 2
  enabled := true
  maxConcurrentLaunches := 1
  missionRequestMultiplier := 2
  launchRetryAllowancePercent := 50
  maxRequestsPerWindow := some 8
  windowSeconds := 60
  versionPositive := by decide
  concurrencyPositive := Nat.one_pos
  missionMultiplierPositive := by decide
  retryAllowanceBounded := by decide
  windowCapPositive := by
    rintro _ ⟨⟩
    decide
  windowIsMeaningful := by decide

/-- Two missions of three turns: nine requests for the run, and six for one mission. -/
def sampleBroker : RunPermitBroker where
  merchantId := 1
  launchId := none
  provider := .openai
  requestedModel := "model"
  budget :=
    { policyVersion := 1
      missionCount := 2
      maxModelTurns := 3
      maxProviderRequests := 9
      maxRequestsPerMission := 6
      frozen := ⟨CapacityPolicy.defaultFor .openai, rfl⟩ }

def samplePolicies : Table ProviderCapacityPolicy :=
  ⟨[samplePolicyRow], by decide⟩

def sampleReserve (missionKey : String) (permitId : Uuid) :
    List (Event PermitCall Instant ProviderCapacityPolicy) :=
  [.arrive 0 (.reserve { runId := 5, missionKey := missionKey, attempt := 1, permitId := permitId }),
    .act 0 10, .act 0 10, .act 0 10, .act 0 10, .act 0 10, .act 0 10, .act 0 10]

def sampleSettle : List (Event PermitCall Instant ProviderCapacityPolicy) :=
  [.arrive 0 (.settle 6 (.reconcile 2)), .act 0 20]

/-- One client alone finds the lock free. -/
theorem sampleReserve_locked (occurs : ProviderCapacityPolicy → Prop) :
    Guarded (permitSystem fun _ => sampleBroker).step
      ((permitSystem fun _ => sampleBroker).Allowed (permitLocks (fun _ => sampleBroker) occurs))
      (World.opening (PermitLedger.opening samplePolicies))
      (sampleReserve "first" 6 ++ sampleSettle) := by
  have alone : System.Alone 0
      (World.opening (PermitLedger.opening samplePolicies) :
        World PermitLedger PermitStage) :=
    fun _ _ => rfl
  exact System.guarded_of_alone alone (by decide)

/-- A mission is granted six requests, and the two it made stay charged. -/
theorem run_charged_within_budget_sample :
    (run (permitSystem fun _ => sampleBroker).step
        (World.opening (PermitLedger.opening samplePolicies))
        (sampleReserve "first" 6 ++ sampleSettle)).shared.runCharge 5 = 2 ∧
    ∃ row ∈ (run (permitSystem fun _ => sampleBroker).step
        (World.opening (PermitLedger.opening samplePolicies))
        (sampleReserve "first" 6 ++ sampleSettle)).shared.permits,
      row.id = 6 ∧ row.chargedRequests ≤ 6 := by
  have charged :
      (run (permitSystem fun _ => sampleBroker).step
        (World.opening (PermitLedger.opening samplePolicies))
        (sampleReserve "first" 6 ++ sampleSettle)).shared.runCharge 5 = 2 := by
    decide +kernel
  have opened :
      (run (permitSystem fun _ => sampleBroker).step
        (World.opening (PermitLedger.opening samplePolicies))
        (sampleReserve "first" 6)).shared.permits.rows.map
          (fun permit => (permit.id, permit.chargedRequests)) = [(6, 6)] := by
    decide +kernel
  obtain ⟨permit, member, isFirst⟩ := List.mem_map.mp
    (opened.symm ▸ List.mem_singleton_self ((6, 6) : Uuid × Nat))
  obtain ⟨sameId, charges⟩ := Prod.mk.inj isFirst
  obtain ⟨row, rowMem, rowId, less, _⟩ :=
    (run_charged_within_budget (sampleReserve_locked fun _ => True)).2.2.2 permit member
  exact ⟨charged, row, rowMem, rowId.trans sameId, by omega⟩

end Sample

end AgentRank.Benchmark
