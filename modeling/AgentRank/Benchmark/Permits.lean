import AgentRank.Benchmark.Capacity
import AgentRank.Store.Session
import AgentRank.Transition.Clients

/-!
# Reserving and settling provider requests

This module models `benchmark/permits.py`.  A reservation is one transaction of several
statements, and every statement reads what is committed when it runs.  It is cut at each
statement.  The advisory lock of the provider is taken by the first one and held to the
end, while settlements take no lock but the one on their row.

The clock of a transaction is read when it starts, which is before the lock is had.
-/

namespace AgentRank.Benchmark

open Relational Store Transition

inductive ExecutionWaitReason
  | providerPaused
  | providerCapacityOccupied
  | providerWindowCapReached
  | launchBudgetExhausted
deriving DecidableEq

/-- What the trusted side hands on about a reservation. -/
structure ProviderGrant where
  permitId : Uuid
  grantedRequests : Nat
  provider : Provider
  requestedModel : String
deriving DecidableEq

/-- What a reservation or a settlement raises. -/
inductive PermitFailure
  | halted (reason : ExecutionWaitReason)
  | raised (failure : Failure)
deriving DecidableEq

/-- What a caller of the permit ledger was told. -/
inductive PermitAnswer
  | granted (grant : ProviderGrant)
  | refused (failure : PermitFailure)
  | settled
deriving DecidableEq

/-- The policies of the operator, the permits, and what callers were told. -/
structure PermitLedger where
  policies : Table ProviderCapacityPolicy
  permits : Table ProviderExecutionPermit
  answers : List PermitAnswer

/-- The stable identity of one intended conversation with a provider. -/
def permitAttemptKey (runId : Uuid) (missionKey : String) (attempt : Nat) : String :=
  s!"{runId}:{missionKey}:{attempt}"

/-- What one run spends under, handed on once. -/
structure RunPermitBroker where
  merchantId : Uuid
  launchId : Option Uuid
  provider : Provider
  requestedModel : String
  budget : FrozenBudget

/-- The arguments of one reservation. -/
structure ReserveRequest where
  runId : Uuid
  missionKey : String
  attempt : Nat
  permitId : Uuid

def ReserveRequest.attemptKey (request : ReserveRequest) : String :=
  permitAttemptKey request.runId request.missionKey request.attempt

/-- The requests that the permits of a kind are charged. -/
def chargeSum (permits : Table ProviderExecutionPermit)
    (counts : ProviderExecutionPermit → Bool) : Nat :=
  permits.total fun permit => if counts permit then permit.chargedRequests else 0

namespace PermitLedger

/-- The policy of a provider, or the default one. -/
def policy (ledger : PermitLedger) (provider : Provider) : CapacityPolicy :=
  match ledger.policies.get? provider with
  | some row => .of row
  | none => .defaultFor provider

def byAttempt (ledger : PermitLedger) (runId : Uuid) (attemptKey : String) :
    Option ProviderExecutionPermit :=
  ledger.permits.rows.find? fun permit =>
    decide (permit.runId = runId ∧ permit.attemptKey = attemptKey)

/-- The requests that a run is charged. -/
def runCharge (ledger : PermitLedger) (runId : Uuid) : Nat :=
  chargeSum ledger.permits fun permit => permit.runId = runId

/-- The requests that a provider is charged since an instant. -/
def chargeSince (ledger : PermitLedger) (provider : Provider) (since : Instant) : Nat :=
  chargeSum ledger.permits fun permit => permit.provider = provider ∧ since ≤ permit.openedAt

/-- The requests that a provider is charged within the window that ends with the
transaction. -/
def windowCharge (ledger : PermitLedger) (provider : Provider) (windowSeconds : Nat)
    (transactionTime : Instant) : Nat :=
  ledger.chargeSince provider (transactionTime - windowSeconds * 1000000)

/-- The call returns. -/
def tell (ledger : PermitLedger) (answer : PermitAnswer) : PermitLedger :=
  { ledger with answers := ledger.answers ++ [answer] }

end PermitLedger

def grantOf (permit : ProviderExecutionPermit) : ProviderGrant where
  permitId := permit.id
  grantedRequests := permit.grantedRequests
  provider := permit.provider
  requestedModel := permit.requestedModel

/-- How a permit is settled, and what the worker reported when it did. -/
inductive Settlement
  | reconcile (consumedRequests : Int)
  | assumeSpent
  | release
deriving DecidableEq

/-- The row of a settled permit.  What a worker reports is kept within the grant. -/
def settledPermit (permit : ProviderExecutionPermit) (isReserved : permit.state = .reserved)
    (closedAt : Instant) (inOrder : permit.openedAt ≤ closedAt) :
    Settlement → ProviderExecutionPermit
  | .reconcile consumedRequests =>
      { permit with
        consumedRequests := some (max 0 (min consumedRequests permit.grantedRequests)).toNat
        state := .reconciled
        closedAt := some closedAt
        consumptionShape := by simp
        consumptionBounded := by
          rintro _ ⟨⟩
          omega
        closedShape := by simp
        closeAfterOpen := by
          rintro _ ⟨⟩
          exact inOrder }
  | .assumeSpent =>
      { permit with
        state := .assumedSpent
        closedAt := some closedAt
        consumptionShape := by simp [← permit.consumptionShape, isReserved]
        closedShape := by simp
        closeAfterOpen := by
          rintro _ ⟨⟩
          exact inOrder }
  | .release =>
      { permit with
        state := .released
        closedAt := some closedAt
        consumptionShape := by simp [← permit.consumptionShape, isReserved]
        closedShape := by simp
        closeAfterOpen := by
          rintro _ ⟨⟩
          exact inOrder }

/-- Settle a permit once.  A check constraint refuses a clock that runs backwards. -/
def settle (ledger : PermitLedger) (permitId : Uuid) (settlement : Settlement)
    (closedAt : Instant) : PermitLedger :=
  match ledger.permits.get? permitId with
  | none => ledger.tell .settled
  | some permit =>
      if isReserved : permit.state = .reserved then
        if inOrder : permit.openedAt ≤ closedAt then
          { ledger with
            permits :=
              ledger.permits.set (settledPermit permit isReserved closedAt inOrder settlement)
            answers := ledger.answers ++ [.settled] }
        else ledger.tell (.refused (.raised (.integrityError "close_after_open")))
      else ledger.tell .settled

/-! ## Reserving, statement by statement -/

inductive PermitCall
  | reserve (request : ReserveRequest)
  | settle (permitId : Uuid) (settlement : Settlement)

/-- Where a call stands: the statement it sends next. -/
inductive PermitStage
  | begin (call : PermitCall)
  /-- Wait for the lock of the provider.  The transaction has started. -/
  | lock (request : ReserveRequest) (transactionTime : Instant)
  | readAttempt (request : ReserveRequest) (transactionTime : Instant)
  | readPolicy (request : ReserveRequest) (transactionTime : Instant)
  | readRun (request : ReserveRequest) (transactionTime : Instant) (policy : CapacityPolicy)
  | readWindow (request : ReserveRequest) (transactionTime : Instant)
      (policy : CapacityPolicy) (launchRemaining : Int)
  | insert (request : ReserveRequest) (transactionTime : Instant) (granted : Int)
  /-- Read what another caller reserved.  The lock is gone. -/
  | reread (request : ReserveRequest)

/-- A permit that was just reserved, unless a check constraint refuses the grant. -/
def newPermit? (broker : RunPermitBroker) (request : ReserveRequest)
    (transactionTime : Instant) (granted : Int) : Option ProviderExecutionPermit :=
  if positive : 1 ≤ granted then
    some
      { id := request.permitId
        merchantId := broker.merchantId
        launchId := broker.launchId
        runId := request.runId
        missionKey := request.missionKey
        attempt := request.attempt
        attemptKey := request.attemptKey
        provider := broker.provider
        requestedModel := broker.requestedModel
        policyVersion := broker.budget.policyVersion
        grantedRequests := granted.toNat
        consumedRequests := none
        state := .reserved
        openedAt := transactionTime
        closedAt := none
        grantPositive := by omega
        consumptionShape := by simp
        consumptionBounded := by rintro _ ⟨⟩
        closedShape := by simp
        closeAfterOpen := by rintro _ ⟨⟩ }
  else none

section Stages

variable (brokers : Uuid → RunPermitBroker)

/-- The provider whose lock a stage holds. -/
def PermitStage.holds : PermitStage → Option Provider
  | begin _ | lock _ _ | reread _ => none
  | readAttempt request _ | readPolicy request _ | readRun request _ _
  | readWindow request _ _ _ | insert request _ _ => some (brokers request.runId).provider

/-- The call is over, and the caller is told. -/
def PermitLedger.finish (ledger : PermitLedger) (answer : PermitAnswer) :
    PermitLedger × Option PermitStage :=
  (ledger.tell answer, none)

/-- Write the permit, unless somebody reserved the same attempt. -/
def insertPermit (ledger : PermitLedger) (request : ReserveRequest)
    (transactionTime : Instant) (granted : Int) : PermitLedger × Option PermitStage :=
  match newPermit? (brokers request.runId) request transactionTime granted with
  | none => ledger.finish (.refused (.raised (.integrityError "grant_positive")))
  | some permit =>
      match ledger.byAttempt request.runId request.attemptKey with
      | some _ => (ledger, some (.reread request))
      | none =>
          match ledger.permits.insert? permit with
          | none =>
              ledger.finish (.refused (.raised (.integrityError "pk_provider_execution_permit")))
          | some permits =>
              ({ ledger with permits := permits }.finish (.granted (grantOf permit)))

/-- A caller that reserved before gets the permit it already holds. -/
def readAttempt (ledger : PermitLedger) (request : ReserveRequest) (transactionTime : Instant) :
    PermitLedger × Option PermitStage :=
  match ledger.byAttempt request.runId request.attemptKey with
  | none => (ledger, some (.readPolicy request transactionTime))
  | some existing =>
      if existing.state = .reserved then ledger.finish (.granted (grantOf existing))
      else
        ledger.finish
          (.refused (.raised (.conflict "permit_already_settled"
            s!"provider execution permit {existing.id} is {existing.state.value}"
            (some "provider_execution_permit") (some (toString existing.id)))))

def readPolicy (ledger : PermitLedger) (request : ReserveRequest) (transactionTime : Instant) :
    PermitLedger × Option PermitStage :=
  let policy := ledger.policy (brokers request.runId).provider
  if policy.enabled then (ledger, some (.readRun request transactionTime policy))
  else ledger.finish (.refused (.halted .providerPaused))

/-- What the run has left must cover one request for each turn. -/
def readRun (ledger : PermitLedger) (request : ReserveRequest) (transactionTime : Instant)
    (policy : CapacityPolicy) : PermitLedger × Option PermitStage :=
  let budget := (brokers request.runId).budget
  let launchRemaining : Int := budget.maxProviderRequests - ledger.runCharge request.runId
  if launchRemaining < budget.maxModelTurns then
    ledger.finish (.refused (.halted .launchBudgetExhausted))
  else (ledger, some (.readWindow request transactionTime policy launchRemaining))

/-- What the window has left must cover one request for each turn. -/
def readWindow (ledger : PermitLedger) (request : ReserveRequest) (transactionTime : Instant)
    (policy : CapacityPolicy) (launchRemaining : Int) : PermitLedger × Option PermitStage :=
  let broker := brokers request.runId
  let allowed := min (broker.budget.maxRequestsPerMission : Int) launchRemaining
  match policy.maxRequestsPerWindow with
  | none => (ledger, some (.insert request transactionTime allowed))
  | some cap =>
      let windowRemaining : Int :=
        cap - ledger.windowCharge broker.provider policy.windowSeconds transactionTime
      if windowRemaining < broker.budget.maxModelTurns then
        ledger.finish (.refused (.halted .providerWindowCapReached))
      else (ledger, some (.insert request transactionTime (min allowed windowRemaining)))

/-- Somebody else reserved the same attempt, and its permit is the one to run under. -/
def reread (ledger : PermitLedger) (request : ReserveRequest) :
    PermitLedger × Option PermitStage :=
  match (ledger.byAttempt request.runId request.attemptKey).filter (·.state = .reserved) with
  | some raced => ledger.finish (.granted (grantOf raced))
  | none =>
      ledger.finish
        (.refused (.raised (.conflict "permit_unavailable"
          "another process holds this mission's provider permit"
          (some "provider_execution_permit") (some request.attemptKey))))

/-- What a stage does, and where it leads. -/
def PermitStage.act (now : Instant) : PermitStage → PermitLedger →
    PermitLedger × Option PermitStage
  | begin (.settle permitId settlement), ledger => (settle ledger permitId settlement now, none)
  | begin (.reserve request), ledger => (ledger, some (.lock request now))
  | lock request transactionTime, ledger => (ledger, some (.readAttempt request transactionTime))
  | readAttempt request transactionTime, ledger =>
      Benchmark.readAttempt ledger request transactionTime
  | readPolicy request transactionTime, ledger =>
      Benchmark.readPolicy brokers ledger request transactionTime
  | readRun request transactionTime policy, ledger =>
      Benchmark.readRun brokers ledger request transactionTime policy
  | readWindow request transactionTime policy launchRemaining, ledger =>
      Benchmark.readWindow brokers ledger request transactionTime policy launchRemaining
  | insert request transactionTime granted, ledger =>
      insertPermit brokers ledger request transactionTime granted
  | reread request, ledger => Benchmark.reread ledger request

/-! ## Where the statements lead -/

section Leads

variable {brokers} {ledger : PermitLedger} {request : ReserveRequest}
  {transactionTime : Instant} {policy : CapacityPolicy} {next : PermitStage}

theorem readAttempt_next (goesOn : (readAttempt ledger request transactionTime).2 = some next) :
    next = .readPolicy request transactionTime ∧
      (readAttempt ledger request transactionTime).1 = ledger := by
  unfold readAttempt at goesOn ⊢
  split at goesOn
  · cases goesOn
    exact ⟨rfl, rfl⟩
  · split at goesOn
    · cases goesOn
    · cases goesOn

theorem readPolicy_next
    (goesOn : (readPolicy brokers ledger request transactionTime).2 = some next) :
    next = .readRun request transactionTime
        (ledger.policy (brokers request.runId).provider) ∧
      (readPolicy brokers ledger request transactionTime).1 = ledger := by
  unfold readPolicy at goesOn ⊢
  dsimp only at goesOn ⊢
  split at goesOn
  · next isEnabled =>
      cases goesOn
      rw [if_pos isEnabled]
      exact ⟨rfl, rfl⟩
  · cases goesOn

/-- A reservation goes on when the run has one request for each turn left. -/
theorem readRun_next
    (goesOn : (readRun brokers ledger request transactionTime policy).2 = some next) :
    ∃ launchRemaining : Int,
      next = .readWindow request transactionTime policy launchRemaining ∧
      (readRun brokers ledger request transactionTime policy).1 = ledger ∧
      ((brokers request.runId).budget.maxModelTurns : Int) ≤ launchRemaining ∧
      launchRemaining + ledger.runCharge request.runId =
        (brokers request.runId).budget.maxProviderRequests := by
  unfold readRun at goesOn ⊢
  dsimp only at goesOn ⊢
  split at goesOn
  · cases goesOn
  · next enough =>
      cases goesOn
      rw [if_neg enough]
      exact ⟨_, rfl, rfl, not_lt.mp enough, by omega⟩

/-- A grant is within the mission, the run and the window, and covers one request for
each turn when the run does. -/
theorem readWindow_next {launchRemaining : Int}
    (goesOn : (readWindow brokers ledger request transactionTime policy launchRemaining).2 =
      some next) :
    ∃ granted : Int,
      next = .insert request transactionTime granted ∧
      (readWindow brokers ledger request transactionTime policy launchRemaining).1 = ledger ∧
      (((brokers request.runId).budget.maxModelTurns : Int) ≤ launchRemaining →
        ((brokers request.runId).budget.maxModelTurns : Int) ≤ granted) ∧
      granted ≤ (brokers request.runId).budget.maxRequestsPerMission ∧
      granted ≤ launchRemaining ∧
      ∀ cap, policy.maxRequestsPerWindow = some cap →
        granted + ledger.windowCharge (brokers request.runId).provider policy.windowSeconds
          transactionTime ≤ cap := by
  have mission := (brokers request.runId).budget.turns_le
  unfold readWindow at goesOn ⊢
  dsimp only at goesOn ⊢
  cases capEq : policy.maxRequestsPerWindow with
  | none =>
      rw [capEq] at goesOn
      cases goesOn
      exact ⟨_, rfl, rfl, by omega, by omega, by omega, by rintro _ ⟨⟩⟩
  | some cap =>
      rw [capEq] at goesOn
      dsimp only at goesOn ⊢
      split at goesOn
      · cases goesOn
      · next enough =>
          cases goesOn
          rw [if_neg enough]
          refine ⟨_, rfl, rfl, by omega, by omega, by omega, ?_⟩
          rintro _ ⟨⟩
          omega

theorem insertPermit_next {granted : Int}
    (goesOn : (insertPermit brokers ledger request transactionTime granted).2 = some next) :
    next = .reread request := by
  unfold insertPermit at goesOn
  split at goesOn
  · cases goesOn
  · split at goesOn
    · cases goesOn
      rfl
    · split at goesOn
      · cases goesOn
      · cases goesOn

theorem reread_over (goesOn : (reread ledger request).2 = some next) : False := by
  unfold reread at goesOn
  split at goesOn
  · cases goesOn
  · cases goesOn

end Leads

/-- An operator writes the policy of a provider. -/
def writePolicy (row : ProviderCapacityPolicy) (ledger : PermitLedger) : PermitLedger :=
  match ledger.policies.insert? row with
  | some policies => { ledger with policies := policies }
  | none => { ledger with policies := ledger.policies.set row }

/-- Any number of workers at the permit ledger. -/
def permitSystem :
    System PermitLedger PermitCall PermitStage Instant ProviderCapacityPolicy where
  enter := PermitStage.begin
  act := PermitStage.act brokers
  outside := writePolicy

/-- The lock of a provider: nobody comes to hold it while another does. -/
def permitLocks (occurs : ProviderCapacityPolicy → Prop) :
    System.Regime PermitStage ProviderCapacityPolicy where
  beside next other := ∀ provider, next.holds brokers = some provider →
    other.holds brokers ≠ some provider
  occurs := occurs

end Stages

end AgentRank.Benchmark
