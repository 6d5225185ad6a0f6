import AgentRank.Benchmark.Launch
import AgentRank.Benchmark.Permits

/-!
# Admitting a launch to a provider

This module models `admit_launch` of `benchmark/permits.py` inside the transaction of
`bind_run` of `benchmark/launch.py`, beside the settlements and the calls of merchants.

The transaction is cut at each statement, since every statement reads what is committed when
it runs.  The row of the launch is locked by the first one and the lock of the provider by
the second, and both are held until the launch is executing or the transaction is gone.
-/

namespace AgentRank.Benchmark

open Relational Store Transition

/-- `executor_kind_for`. -/
def executorKindFor : Provider → String
  | .openai => "llm-openai"
  | .gemini => "llm-gemini"

def referenceIsolatedKind : String := "reference-isolated"

/-- The executor kind of a verified plan, which names a provider unless it runs the
reference buyer. -/
def planKind : Option Provider → String
  | some provider => executorKindFor provider
  | none => referenceIsolatedKind

/-- Kinds tell providers apart. -/
theorem planKind_injective {first second : Option Provider}
    (same : planKind first = planKind second) : first = second := by
  cases first with
  | none =>
      cases second with
      | none => rfl
      | some provider => cases provider <;> simp [planKind, executorKindFor, referenceIsolatedKind] at same
  | some provider =>
      cases second with
      | none => cases provider <;> simp [planKind, executorKindFor, referenceIsolatedKind] at same
      | some other =>
          cases provider <;> cases other <;> simp [planKind, executorKindFor] at same ⊢

/-- The provider of `_dispatch_plan`: none for the reference buyer, and otherwise the one
that the frozen configuration names. -/
def plannedProvider (launch : EvaluationLaunch) (configured : Provider) : Option Provider :=
  match launch.buyerProfile with
  | .referenceBuyer => none
  | .aiBuyer => some configured

/-- The launches, and what governs the capacity of the providers. -/
structure CapacityStore where
  launches : LaunchStore
  ledger : PermitLedger

namespace CapacityStore

/-- An executing launch of a provider. -/
def isExecutingAt (provider : Provider) (launch : EvaluationLaunch) : Bool :=
  launch.status = .executing && launch.executorKind = executorKindFor provider

/-- The launches that are executing at a provider. -/
def executing (store : CapacityStore) (provider : Provider) : Nat :=
  (store.launches.launches.rows.filter (isExecutingAt provider)).length

/-- The launches that are executing at a provider, but one. -/
def executingBut (store : CapacityStore) (provider : Provider) (excluding : Uuid) : Nat :=
  (store.launches.launches.rows.filter fun launch =>
    isExecutingAt provider launch && launch.id != excluding).length

/-- `_operator_runs`: the runs without a launch that are inside a provider call. -/
def operatorRuns (store : CapacityStore) (provider : Provider) : Nat :=
  ((store.ledger.permits.rows.filter fun permit =>
    permit.provider = provider && permit.state = .reserved && permit.launchId.isNone).map
      ProviderExecutionPermit.runId).dedup.length

/-- The wait reason of `status`. -/
def waitReason (store : CapacityStore) (provider : Provider) (transactionTime : Instant) :
    Option ExecutionWaitReason :=
  let policy := store.ledger.policy provider
  let charged := store.ledger.windowCharge provider policy.windowSeconds transactionTime
  if policy.enabled = false then some .providerPaused
  else if policy.maxConcurrentLaunches ≤
      store.executing provider + store.operatorRuns provider then
    some .providerCapacityOccupied
  else if policy.maxRequestsPerWindow.any fun cap => cap ≤ charged then
    some .providerWindowCapReached
  else none

end CapacityStore

/-! ## Statement by statement -/

/-- What somebody asks for: the dispatch of a launch for which a run was started, a
settlement, or what a merchant or an operator asks.  A session may hold copies. -/
inductive CapacityCall
  | dispatch (launchId runId : Uuid)
  | completed (launchId : Uuid) (held : Option EvaluationLaunch)
  | failed (launchId : Uuid) (held : Option EvaluationLaunch) (failureCode : String)
  | terminal (runId : Uuid) (held : Option SuiteRun)
  | cancel (launchId : Uuid)
  | withdraw (merchantId launchId : Uuid)
  | request (launchId : Uuid) (asked : LaunchRequest) (facts : PlanFacts)

/-- The arguments of a `bind_run`, and the policy that its session has read before. -/
structure LaunchBinding where
  launchId : Uuid
  runId : Uuid
  provider : Option Provider
  read : Option CapacityPolicy := none

/-- Where a call stands: the statement it sends next. -/
inductive CapacityStage
  | begin (call : CapacityCall)
  /-- The advisory look before anything long starts. -/
  | look (binding : LaunchBinding)
  /-- Start the transaction of `bind_run`. -/
  | start (binding : LaunchBinding)
  /-- Wait for the row of the launch. -/
  | lockRow (binding : LaunchBinding) (transactionTime : Instant)
  /-- Wait for the lock of the provider. -/
  | lockProvider (binding : LaunchBinding) (provider : Provider) (transactionTime : Instant)
  | readPolicy (binding : LaunchBinding) (provider : Provider) (transactionTime : Instant)
  | countLaunches (binding : LaunchBinding) (provider : Provider) (transactionTime : Instant)
      (policy : CapacityPolicy)
  | countOperators (binding : LaunchBinding) (provider : Provider) (transactionTime : Instant)
      (policy : CapacityPolicy) (launches : Nat)
  | readWindow (binding : LaunchBinding) (provider : Provider) (transactionTime : Instant)
      (policy : CapacityPolicy)
  /-- Write the launch and commit. -/
  | write (binding : LaunchBinding) (transactionTime : Instant)
  /-- Decide on a launch whose row is locked, and commit. -/
  | settle (call : CapacityCall)

/-- What a step finds outside: what the frozen configuration names, and whether the session
still holds the policy that it has read. -/
structure CapacityInput where
  configured : Provider
  remembers : Bool

/-- The launch whose row a stage has locked. -/
def CapacityStage.holdsRow : CapacityStage → Option Uuid
  | lockProvider binding _ _ | readPolicy binding _ _ | countLaunches binding _ _ _
  | countOperators binding _ _ _ _ | readWindow binding _ _ _ | write binding _ =>
      some binding.launchId
  | settle (.completed launchId _) | settle (.failed launchId _ _) | settle (.cancel launchId)
  | settle (.withdraw _ launchId) => some launchId
  | _ => none

/-- The provider whose lock a stage holds. -/
def CapacityStage.holdsProvider : CapacityStage → Option Provider
  | readPolicy _ provider _ | countLaunches _ provider _ _ | countOperators _ provider _ _ _
  | readWindow _ provider _ _ => some provider
  | write binding _ => binding.provider
  | _ => none

/-- The decision of a call on a locked row. -/
def CapacityCall.decide (store : LaunchStore) : CapacityCall → Except Failure LaunchStore
  | dispatch _ _ => .ok store
  | completed launchId held => settleCompleted launchId held store
  | failed launchId held failureCode => settleFailed launchId held failureCode store
  | terminal runId held => settleForTerminalRun runId held store
  | cancel launchId => cancelQueued launchId store
  | withdraw merchantId launchId => withdrawLaunch merchantId launchId store
  | request launchId asked facts => (requestLaunch launchId asked facts store).map Prod.snd

namespace CapacityStore

/-- The transaction is gone, with everything it wrote. -/
def halt (store : CapacityStore) : CapacityStore × Option CapacityStage :=
  (store, none)

/-- A transaction over the launches that is the last one of its call. -/
def lastly (store : CapacityStore) (outcome : Except Failure LaunchStore) :
    CapacityStore × Option CapacityStage :=
  match outcome with
  | .error _ => (store, none)
  | .ok launches => ({ store with launches := launches }, none)

end CapacityStore

def failureBuyerConfiguration : String := "buyer_configuration_invalid"

/-- The plan of a dispatcher: its executor kind is the one that the launch froze. -/
def planDispatch (store : CapacityStore) (launchId runId : Uuid) (configured : Provider) :
    CapacityStore × Option CapacityStage :=
  match store.launches.launches.get? launchId with
  | none => store.halt
  | some launch =>
      let provider := plannedProvider launch configured
      if planKind provider ≠ launch.executorKind then
        (store, some (.begin (.failed launchId none failureBuyerConfiguration)))
      else (store, some (.look { launchId := launchId, runId := runId, provider := provider }))

/-- `_capacity_wait_reason`, which reads the policy into the session. -/
def lookAhead (store : CapacityStore) (binding : LaunchBinding) :
    CapacityStore × Option CapacityStage :=
  match binding.provider with
  | none => (store, some (.start binding))
  | some provider =>
      match store.waitReason provider store.launches.clock with
      | some _ => store.halt
      | none =>
          (store, some (.start { binding with read := some (store.ledger.policy provider) }))

/-- The row is locked: it must be queued. -/
def lockRow (store : CapacityStore) (binding : LaunchBinding) (transactionTime : Instant) :
    CapacityStore × Option CapacityStage :=
  match store.launches.launches.get? binding.launchId with
  | none => store.halt
  | some launch =>
      if launch.status ≠ .queued then store.halt
      else
        match binding.provider with
        | none => (store, some (.write binding transactionTime))
        | some provider => (store, some (.lockProvider binding provider transactionTime))

/-- The statements of `admit_launch` after the lock: the policy is read, the other launches
and the runs of the operators are counted, and the window is charged. -/
def readLaunchPolicy (store : CapacityStore) (input : CapacityInput) (binding : LaunchBinding)
    (provider : Provider) (transactionTime : Instant) : CapacityStore × Option CapacityStage :=
  let stored := store.ledger.policy provider
  let policy := if input.remembers then binding.read.getD stored else stored
  if policy.enabled = false then store.halt
  else (store, some (.countLaunches binding provider transactionTime policy))

def countOperators (store : CapacityStore) (binding : LaunchBinding) (provider : Provider)
    (transactionTime : Instant) (policy : CapacityPolicy) (launches : Nat) :
    CapacityStore × Option CapacityStage :=
  if policy.maxConcurrentLaunches ≤ launches + store.operatorRuns provider then store.halt
  else if policy.maxRequestsPerWindow.isSome then
    (store, some (.readWindow binding provider transactionTime policy))
  else (store, some (.write binding transactionTime))

def readLaunchWindow (store : CapacityStore) (binding : LaunchBinding) (provider : Provider)
    (transactionTime : Instant) (policy : CapacityPolicy) :
    CapacityStore × Option CapacityStage :=
  let charged := store.ledger.windowCharge provider policy.windowSeconds transactionTime
  if policy.maxRequestsPerWindow.any fun cap => cap ≤ charged then store.halt
  else (store, some (.write binding transactionTime))

/-- The columns of the launch are written over the stored row. -/
def writeBinding (store : CapacityStore) (binding : LaunchBinding) (transactionTime : Instant) :
    CapacityStore × Option CapacityStage :=
  match store.launches.launches.get? binding.launchId with
  | none => store.halt
  | some launch =>
      store.lastly
        (writeLaunch launch (launch.bind binding.runId transactionTime) store.launches)

/-- What a stage does, and where it leads. -/
def CapacityStage.act (input : CapacityInput) : CapacityStage → CapacityStore →
    CapacityStore × Option CapacityStage
  | begin (.dispatch launchId runId), store => planDispatch store launchId runId input.configured
  | begin call, store => (store, some (.settle call))
  | look binding, store => lookAhead store binding
  | start binding, store => (store, some (.lockRow binding store.launches.clock))
  | lockRow binding transactionTime, store => Benchmark.lockRow store binding transactionTime
  | lockProvider binding provider transactionTime, store =>
      (store, some (.readPolicy binding provider transactionTime))
  | readPolicy binding provider transactionTime, store =>
      readLaunchPolicy store input binding provider transactionTime
  | countLaunches binding provider transactionTime policy, store =>
      (store, some (.countOperators binding provider transactionTime policy
        (store.executingBut provider binding.launchId)))
  | countOperators binding provider transactionTime policy launches, store =>
      Benchmark.countOperators store binding provider transactionTime policy launches
  | readWindow binding provider transactionTime policy, store =>
      readLaunchWindow store binding provider transactionTime policy
  | write binding transactionTime, store => writeBinding store binding transactionTime
  | settle call, store => store.lastly (call.decide store.launches)

/-- What happens beside: the clock goes on, an operator writes a policy, permits are reserved
and settled, and runs begin and end. -/
inductive CapacityEvent
  | tick (microseconds : Nat)
  | writePolicy (row : ProviderCapacityPolicy)
  | permits (rows : Table ProviderExecutionPermit)
  | runs (rows : RunStore)

def CapacityEvent.apply (store : CapacityStore) : CapacityEvent → CapacityStore
  | tick microseconds =>
      { store with
        launches := { store.launches with clock := store.launches.clock + microseconds } }
  | writePolicy row => { store with ledger := Benchmark.writePolicy row store.ledger }
  | permits rows => { store with ledger := { store.ledger with permits := rows } }
  | runs rows => { store with launches := { store.launches with runs := rows } }

/-- Any number of dispatchers, merchants and operators over one store. -/
def capacitySystem :
    System CapacityStore CapacityCall CapacityStage CapacityInput CapacityEvent where
  enter := CapacityStage.begin
  act input stage store := stage.act input store
  outside event store := event.apply store

/-- The locks: nobody comes to hold the row of a launch or the lock of a provider while
another does. -/
def capacityLocks : System.Regime CapacityStage CapacityEvent where
  beside next other :=
    (∀ launchId, next.holdsRow = some launchId → other.holdsRow ≠ some launchId) ∧
      ∀ provider, next.holdsProvider = some provider → other.holdsProvider ≠ some provider
  occurs _ := True

abbrev CapacityWorld := World CapacityStore CapacityStage

/-- The store before any launch was requested. -/
def CapacityStore.opening (runs : RunStore) (clock : Instant)
    (policies : Table ProviderCapacityPolicy) (permits : Table ProviderExecutionPermit) :
    CapacityStore where
  launches := { launches := Table.empty, runs := runs, clock := clock }
  ledger := { policies := policies, permits := permits, answers := [] }

end AgentRank.Benchmark
