import AgentRank.Benchmark.Runner

/-!
# Evaluation launches

This module models `benchmark/launch.py` and the row it works on: the request of a merchant
to run one evaluation, its withdrawal, and what the workers write.

A launch is admitted queued.  Binding a run makes it executing, and the end of the run
settles it.  Every write passes the trigger, the check constraints and the unique indexes of
the table, which hold whatever the services believe.
-/

namespace AgentRank.Benchmark

open Relational Store

inductive EvaluationLaunchStatus
  | queued
  | executing
  | completed
  | failed
deriving DecidableEq

def EvaluationLaunchStatus.value : EvaluationLaunchStatus → String
  | queued => "QUEUED"
  | executing => "EXECUTING"
  | completed => "COMPLETED"
  | failed => "FAILED"

inductive EvaluationPurpose
  | initial
  | reevaluation
deriving DecidableEq

inductive BuyerProfile
  | aiBuyer
  | referenceBuyer
deriving DecidableEq

structure EvaluationLaunch where
  id : Uuid
  merchantId : Uuid
  requestKey : String
  purpose : EvaluationPurpose
  representationId : Option Uuid
  compilerRunId : Option Uuid
  sourceSnapshotId : Option Uuid
  environmentId : Uuid
  buyerProfile : BuyerProfile
  executorKind : String
  maxProviderRequests : Option Nat
  baselineRunId : Option Uuid
  requestedAt : Instant
  status : EvaluationLaunchStatus := .queued
  runId : Option Uuid := none
  failureCode : Option String := none
  startedAt : Option Instant := none
  settledAt : Option Instant := none
deriving DecidableEq

instance : Keyed EvaluationLaunch Uuid where
  key launch := launch.id

namespace EvaluationLaunch

/-- `PENDING_PREDICATE`. -/
def isPending (launch : EvaluationLaunch) : Bool :=
  launch.status = .queued || launch.status = .executing

def isSettled (launch : EvaluationLaunch) : Bool :=
  launch.status = .completed || launch.status = .failed

/-- The columns that `bind_run` writes. -/
def bind (launch : EvaluationLaunch) (runId : Uuid) (now : Instant) : EvaluationLaunch :=
  { launch with runId := some runId, startedAt := some now, status := .executing }

/-- The columns of a completed launch. -/
def complete (launch : EvaluationLaunch) (now : Instant) : EvaluationLaunch :=
  { launch with status := .completed, settledAt := some now }

/-- The columns of a failed launch. -/
def fail (launch : EvaluationLaunch) (failureCode : String) (now : Instant) :
    EvaluationLaunch :=
  { launch with status := .failed, failureCode := some failureCode, settledAt := some now }

end EvaluationLaunch

/-- The stored launches and runs, the clock of the database, and for every run that a
dispatcher created the launch it was created for. -/
structure LaunchStore where
  launches : Table EvaluationLaunch
  runs : RunStore
  clock : Instant
  dispatched : List (Uuid × Uuid) := []

/-! ## The constraints of the table -/

def launchTransitions : List (EvaluationLaunchStatus × EvaluationLaunchStatus) :=
  [(.queued, .queued), (.queued, .executing), (.queued, .failed), (.executing, .executing),
    (.executing, .completed), (.executing, .failed)]

/-- The status of the run that a launch names. -/
def RunStore.statusOf (runs : RunStore) (runId : Option Uuid) : Option BenchmarkRunStatus :=
  (runId.bind runs.runs.get?).map fun run => run.status

/-- The part of `benchmark_evaluation_launch_guard` that looks at the run. -/
def settlementGuard (runs : RunStore) (new : EvaluationLaunch) : Option String :=
  if new.status = .completed ∧ runs.statusOf new.runId ≠ some .completed then
    some "a completed evaluation launch must name a completed benchmark run"
  else if new.status = .failed ∧ new.runId.isSome ∧ runs.statusOf new.runId ≠ some .aborted then
    some "a failed evaluation launch that names a run must name an aborted one"
  else none

/-- `benchmark_evaluation_launch_guard` on an update. -/
def launchGuard (runs : RunStore) (old new : EvaluationLaunch) : Option String :=
  if old.runId.isSome ∧ new.runId ≠ old.runId then
    some "a benchmark evaluation launch cannot be moved to another run"
  else if (old.status, new.status) ∉ launchTransitions then
    some s!"benchmark evaluation launch status cannot go from {old.status.value} to {new.status.value}"
  else settlementGuard runs new

/-- `benchmark_evaluation_launch_guard` on an insert. -/
def launchInsertGuard (new : EvaluationLaunch) : Option String :=
  if new.status ≠ .queued then
    some "a benchmark evaluation launch is admitted queued, never written settled"
  else if new.buyerProfile = .aiBuyer ∧ new.maxProviderRequests = none then
    some "a model buyer evaluation launch is admitted with an execution budget"
  else if new.buyerProfile ≠ .aiBuyer ∧ new.maxProviderRequests ≠ none then
    some "only a model buyer evaluation launch carries a provider execution budget"
  else none

/-- `REQUEST_KEY_PATTERN`: eight to sixty four letters, digits, underscores and hyphens. -/
def isRequestKey (value : String) : Bool :=
  8 ≤ value.length && value.length ≤ 64 &&
    value.toList.all fun char => char.isAlphanum || char == '_' || char == '-'

/-- A check constraint of the table. -/
structure LaunchCheck where
  name : String
  holds : EvaluationLaunch → Bool

def launchChecks : List LaunchCheck :=
  [{ name := "purpose_identity_shape"
     holds := fun launch =>
      match launch.purpose with
      | .initial => launch.representationId.isNone && launch.compilerRunId.isNone &&
          launch.sourceSnapshotId.isSome
      | .reevaluation => launch.representationId.isSome && launch.compilerRunId.isSome &&
          launch.sourceSnapshotId.isNone },
    { name := "initial_has_no_baseline"
      holds := fun launch => launch.purpose ≠ .initial || launch.baselineRunId.isNone },
    { name := "request_key_format", holds := fun launch => isRequestKey launch.requestKey },
    { name := "executor_kind_format", holds := fun launch => isKey launch.executorKind },
    { name := "queued_shape"
      holds := fun launch => launch.status ≠ .queued || launch.runId.isNone &&
        launch.startedAt.isNone && launch.settledAt.isNone && launch.failureCode.isNone },
    { name := "executing_shape"
      holds := fun launch => (launch.status ≠ .executing && launch.status ≠ .completed) ||
        launch.runId.isSome && launch.startedAt.isSome && launch.failureCode.isNone },
    { name := "executing_is_not_settled"
      holds := fun launch => launch.status ≠ .executing || launch.settledAt.isNone },
    { name := "settled_shape"
      holds := fun launch => launch.isSettled == launch.settledAt.isSome },
    { name := "failure_shape"
      holds := fun launch => decide (launch.status = .failed) == launch.failureCode.isSome },
    { name := "run_needs_a_start"
      holds := fun launch => launch.runId.isNone || launch.startedAt.isSome },
    { name := "start_order"
      holds := fun launch => launch.startedAt.all fun started => launch.requestedAt ≤ started },
    { name := "settle_order"
      holds := fun launch => launch.settledAt.all fun settled => launch.requestedAt ≤ settled },
    { name := "settle_after_start"
      holds := fun launch => launch.settledAt.all fun settled =>
        launch.startedAt.all fun started => started ≤ settled },
    { name := "baseline_is_another_run"
      holds := fun launch => launch.baselineRunId.isNone || launch.runId.isNone ||
        launch.baselineRunId ≠ launch.runId }]

/-- The first check constraint that a row violates. -/
def EvaluationLaunch.violated (launch : EvaluationLaunch) : Option String :=
  (launchChecks.find? fun check => !check.holds launch).map LaunchCheck.name

/-- A launch other than the given one holds what a unique index allows once. -/
def heldElsewhere (launches : Table EvaluationLaunch) (new : EvaluationLaunch)
    (holds : EvaluationLaunch → Bool) : Bool :=
  holds new && launches.rows.any fun other => other.id ≠ new.id && holds other

/-- The unique constraint on `run_id`. -/
def runTaken (launches : Table EvaluationLaunch) (new : EvaluationLaunch) : Bool :=
  heldElsewhere launches new fun launch => launch.runId.isSome && launch.runId = new.runId

/-- The partial unique index on the pending launches of a merchant. -/
def pendingTaken (launches : Table EvaluationLaunch) (new : EvaluationLaunch) : Bool :=
  heldElsewhere launches new fun launch =>
    launch.isPending && launch.merchantId = new.merchantId

/-- The unique constraint on the request keys of a merchant. -/
def requestTaken (launches : Table EvaluationLaunch) (new : EvaluationLaunch) : Bool :=
  heldElsewhere launches new fun launch =>
    launch.merchantId = new.merchantId && launch.requestKey = new.requestKey

/-- A foreign key to a run of the same merchant. -/
def namesRun (runs : RunStore) (merchantId : Uuid) (runId : Option Uuid) : Bool :=
  runId.all fun runId => (runs.find? ⟨runId, merchantId⟩).isSome

/-- The constraint that a new row breaks, whether it is inserted or written over another. -/
def brokenConstraint (store : LaunchStore) (new : EvaluationLaunch) : Option String :=
  match new.violated with
  | some name => some name
  | none =>
      if requestTaken store.launches new then some "uq_benchmark_evaluation_launch_request"
      else if runTaken store.launches new then some "uq_benchmark_evaluation_launch_run"
      else if pendingTaken store.launches new then
        some "uq_benchmark_evaluation_launch_pending_merchant"
      else if !namesRun store.runs new.merchantId new.runId then
        some "fk_benchmark_evaluation_launch_run"
      else if !namesRun store.runs new.merchantId new.baselineRunId then
        some "fk_benchmark_evaluation_launch_baseline"
      else none

/-- Update a stored launch. -/
def writeLaunch (old new : EvaluationLaunch) (store : LaunchStore) :
    Except Failure LaunchStore :=
  match launchGuard store.runs old new with
  | some message => .error (.integrityError message)
  | none =>
      match brokenConstraint store new with
      | some name => .error (.integrityError name)
      | none => .ok { store with launches := store.launches.set new }

/-- Insert a launch. -/
def insertLaunch (new : EvaluationLaunch) (store : LaunchStore) : Except Failure LaunchStore :=
  match launchInsertGuard new with
  | some message => .error (.integrityError message)
  | none =>
      match brokenConstraint store new with
      | some name => .error (.integrityError name)
      | none =>
          match store.launches.insert? new with
          | none => .error (.integrityError "pk_benchmark_evaluation_launch")
          | some launches => .ok { store with launches := launches }

/-! ## The merchant's service -/

def launchResource : String := "benchmark_evaluation_launch"

def launchConflict (reason detail : String) (launchId : Uuid) : Failure :=
  .conflict reason detail (some launchResource) (some (toString launchId))

def launchNotFound (launchId : Uuid) : Failure :=
  .notFound launchResource (toString launchId)

structure LaunchBlocker where
  code : String
  message : String

/-- What `plan` reads of other tables: the buyer, the artifact that would be measured, what
stands in the way, and the digest of all of it. -/
structure PlanFacts where
  blockers : List LaunchBlocker := []
  representationId : Option Uuid
  compilerRunId : Option Uuid
  sourceSnapshotId : Option Uuid
  environmentId : Uuid
  buyerProfile : BuyerProfile
  executorKind : String
  maxProviderRequests : Option Nat
  baselineRunId : Option Uuid
  digest : String

/-- What the merchant asks for, with what it was shown. -/
structure LaunchRequest where
  merchantId : Uuid
  purpose : EvaluationPurpose
  representationId : Option Uuid
  requestKey : String
  planDigest : String

/-- `_purpose`: a merchant with nothing published and nothing completed is new. -/
def planPurpose (merchantId : Uuid) (facts : PlanFacts) (store : LaunchStore) :
    EvaluationPurpose :=
  if facts.representationId.isSome || store.runs.runs.rows.any (fun run =>
    run.merchantId = merchantId && run.status = .completed) then .reevaluation else .initial

/-- `_pending`. -/
def pendingLaunch (merchantId : Uuid) (store : LaunchStore) : Option EvaluationLaunch :=
  store.launches.rows.find? fun launch => launch.merchantId = merchantId && launch.isPending

/-- The blockers of a plan, those that the launches and runs give rise to last. -/
def planBlockers (merchantId : Uuid) (facts : PlanFacts) (store : LaunchStore) :
    List LaunchBlocker :=
  let pending := pendingLaunch merchantId store
  let active := store.runs.activeRunId merchantId
  facts.blockers ++
    (if pending.isSome then
      [{ code := "evaluation_already_pending"
         message := "An evaluation is already queued or running for this merchant. Wait for it to finish before starting another." }]
    else []) ++
    (if active.isSome ∧ pending.bind EvaluationLaunch.runId ≠ active then
      [{ code := "run_already_active"
         message := "A benchmark run is already executing against this merchant's world. Only one run may own that world at a time." }]
    else [])

def merchantConflict (reason detail : String) (merchantId : Uuid) : Failure :=
  .conflict reason detail (some launchResource) (some (toString merchantId))

/-- `_require_launchable`: why a request is refused, if it is. -/
def launchRefusal (request : LaunchRequest) (facts : PlanFacts) (store : LaunchStore) :
    Option Failure :=
  let purpose := planPurpose request.merchantId facts store
  match planBlockers request.merchantId facts store with
  | blocker :: _ => some (merchantConflict blocker.code blocker.message request.merchantId)
  | [] =>
      if purpose ≠ request.purpose then
        some (merchantConflict "evaluation_purpose_superseded"
          "What AgentRank would evaluate for this merchant has changed since this page was loaded."
          request.merchantId)
      else if purpose = .initial ∧ request.representationId.isSome then
        some (merchantConflict "initial_evaluation_names_no_representation"
          "A first evaluation measures your current merchant-facing state, so it cannot name a published representation."
          request.merchantId)
      else if purpose ≠ .initial ∧ facts.representationId ≠ request.representationId then
        some (.conflict "representation_superseded"
          "A newer agent-ready representation has been published since this page was loaded."
          (some "commerce_representation") (some (optionalIdentifier facts.representationId)))
      else if facts.digest ≠ request.planDigest then
        some (merchantConflict "preflight_superseded"
          "What this evaluation would run has changed since this page was loaded."
          request.merchantId)
      else none

/-- The row that an admitted request inserts. -/
def admittedLaunch (launchId : Uuid) (request : LaunchRequest) (facts : PlanFacts)
    (store : LaunchStore) : EvaluationLaunch :=
  let purpose := planPurpose request.merchantId facts store
  let initial := purpose = .initial
  { id := launchId
    merchantId := request.merchantId
    requestKey := request.requestKey
    purpose := purpose
    representationId := if initial then none else facts.representationId
    compilerRunId := if initial then none else facts.compilerRunId
    sourceSnapshotId := if initial then facts.sourceSnapshotId else none
    environmentId := facts.environmentId
    buyerProfile := facts.buyerProfile
    executorKind := facts.executorKind
    maxProviderRequests := facts.maxProviderRequests
    baselineRunId := if initial then none else facts.baselineRunId
    requestedAt := store.clock }

/-- `_same_request`. -/
def sameRequest (existing : EvaluationLaunch) (request : LaunchRequest) :
    Except Failure EvaluationLaunch :=
  if existing.purpose ≠ request.purpose ∨
      existing.representationId ≠ request.representationId then
    .error (launchConflict "evaluation_request_key_reused"
      "This request has already launched a different evaluation." existing.id)
  else .ok existing

/-- `_by_request_key`. -/
def launchByRequestKey (request : LaunchRequest) (store : LaunchStore) :
    Option EvaluationLaunch :=
  store.launches.rows.find? fun launch =>
    launch.merchantId = request.merchantId && launch.requestKey = request.requestKey

/-- `MerchantEvaluationLaunchService.request`. -/
def requestLaunch (launchId : Uuid) (request : LaunchRequest) (facts : PlanFacts)
    (store : LaunchStore) : Except Failure (EvaluationLaunch × LaunchStore) :=
  match launchByRequestKey request store with
  | some existing => (sameRequest existing request).map fun launch => (launch, store)
  | none =>
      match launchRefusal request facts store with
      | some failure => .error failure
      | none =>
          let launch := admittedLaunch launchId request facts store
          (insertLaunch launch store).map fun final => (launch, final)

def withdrawnByMerchant : String := "withdrawn_by_merchant"

/-- `MerchantEvaluationLaunchService.withdraw`. -/
def withdrawLaunch (merchantId launchId : Uuid) (store : LaunchStore) :
    Except Failure LaunchStore :=
  match (store.launches.get? launchId).filter fun launch => launch.merchantId = merchantId with
  | none => .error (launchNotFound launchId)
  | some launch =>
      if launch.status ≠ .queued then
        .error (launchConflict "launch_not_queued"
          s!"This evaluation is {launch.status.value.toLower} and only a queued one can be withdrawn. An evaluation that has started is closed by your operator."
          launchId)
      else if (store.runs.activeRunId merchantId).isSome then
        .error (launchConflict "run_already_active"
          "A benchmark run is executing against your world for this evaluation, so it is no longer waiting and cannot be withdrawn. Your operator closes a run that has started."
          launchId)
      else writeLaunch launch (launch.fail withdrawnByMerchant store.clock) store

/-- What a worker can execute, and where. -/
structure Worker where
  merchantId : Uuid
  environmentId : Uuid
  executorKinds : List String

/-- The oldest of some launches, by the instant of the request and then by identifier. -/
def oldestLaunch : List EvaluationLaunch → Option EvaluationLaunch
  | [] => none
  | launch :: rest =>
      match oldestLaunch rest with
      | none => some launch
      | some other =>
          if other.requestedAt < launch.requestedAt ∨
              other.requestedAt = launch.requestedAt ∧ other.id.bits < launch.id.bits then some other
          else some launch

/-- `claim_next`. -/
def claimNext (worker : Worker) (store : LaunchStore) : Option EvaluationLaunch :=
  oldestLaunch (store.launches.rows.filter fun launch =>
    launch.merchantId = worker.merchantId && launch.environmentId = worker.environmentId &&
      launch.status = .queued && worker.executorKinds.contains launch.executorKind)

/-- `_locked` finds the row, and gives the copy that the session already holds. -/
def lockedLaunch (launchId : Uuid) (held : Option EvaluationLaunch) (store : LaunchStore) :
    Except Failure (EvaluationLaunch × EvaluationLaunch) :=
  match store.launches.get? launchId with
  | none => .error (launchNotFound launchId)
  | some stored => .ok (held.getD stored, stored)

/-- `bind_run`.  The capacity admission runs inside the transaction, and may halt it.  The
dispatcher's copy was expired by a rollback, so the row is read. -/
def bindRun (launchId runId : Uuid) (halts : Option String) (store : LaunchStore) :
    Except Raised (EvaluationLaunch × LaunchStore) :=
  match lockedLaunch launchId none store with
  | .error failure => .error (.failed failure)
  | .ok (launch, stored) =>
      if launch.status ≠ .queued then
        .error (.failed (launchConflict "launch_not_queued"
          s!"benchmark evaluation launch {launch.id} is {launch.status.value}" launch.id))
      else
        match halts with
        | some failureCode => .error (.halted failureCode)
        | none =>
            match writeLaunch stored (stored.bind runId store.clock) store with
            | .error failure => .error (.failed failure)
            | .ok final => .ok (launch.bind runId store.clock, final)

def settleCompleted (launchId : Uuid) (held : Option EvaluationLaunch) (store : LaunchStore) :
    Except Failure LaunchStore :=
  match lockedLaunch launchId held store with
  | .error failure => .error failure
  | .ok (launch, stored) =>
      if launch.status ≠ .executing then .ok store
      else writeLaunch stored (stored.complete store.clock) store

def settleFailed (launchId : Uuid) (held : Option EvaluationLaunch) (failureCode : String)
    (store : LaunchStore) : Except Failure LaunchStore :=
  match lockedLaunch launchId held store with
  | .error failure => .error failure
  | .ok (launch, stored) =>
      if launch.isPending then writeLaunch stored (stored.fail failureCode store.clock) store
      else .ok store

def cancelledByOperator : String := "cancelled_by_operator"

def cancelQueued (launchId : Uuid) (store : LaunchStore) : Except Failure LaunchStore :=
  match lockedLaunch launchId none store with
  | .error failure => .error failure
  | .ok (launch, stored) =>
      if launch.status ≠ .queued then
        .error (launchConflict "launch_not_queued"
          s!"this launch is {launch.status.value.toLower} and only a queued one can be cancelled; abort its run and settle it instead"
          launchId)
      else writeLaunch stored (stored.fail cancelledByOperator store.clock) store

/-- `settle_for_terminal_run`.  The session may hold a copy of the run. -/
def settleForTerminalRun (runId : Uuid) (held : Option SuiteRun) (store : LaunchStore) :
    Except Failure LaunchStore :=
  match store.launches.rows.find? fun launch => launch.runId = some runId with
  | none => .ok store
  | some launch =>
      if launch.status ≠ .executing then .ok store
      else
        match store.runs.find? ⟨runId, launch.merchantId⟩ with
        | none => .ok store
        | some stored =>
            let run := held.getD stored
            if !run.isTerminal then .ok store
            else if run.status = .completed then
              writeLaunch launch (launch.complete store.clock) store
            else writeLaunch launch (launch.fail "run_aborted" store.clock) store

end AgentRank.Benchmark
