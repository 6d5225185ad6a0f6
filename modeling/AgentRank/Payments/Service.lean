import AgentRank.Payments.Operations
import AgentRank.Transition.Clients

/-!
# The calls of the payment service

This module models `payments/service.py`: paying, resuming and reconciling.  A call is
cut where it commits, and where it talks to a provider with no transaction open.  Each
piece is a stage, and a call that is gone between two stages crashed there.

The module keeps what a run leaves behind: the database, what the provider was asked to
execute, and what the callers were told.
-/

namespace AgentRank.Payments

open Relational Store Text Transition

/-- What a caller asking to pay presents, and the identifier its attempt would get. -/
structure PayRequest where
  checkoutId : Uuid
  merchantId : Uuid
  idempotencyKey : String
  capability : Option BenchmarkRunCapability
  credentialId : Option Uuid
  attemptId : Uuid

/-- The admission decision and the attempt as it stands after the request. -/
structure PaymentResult where
  admission : PaymentAdmission
  attempt : Option PaymentAttempt := none

/-- What a caller was told. -/
inductive Answer
  | paid (request : PayRequest) (result : PaymentResult)
  | resolved (outcome : PaymentOutcome)
  | raised (failure : Failure)

/-- Why an attempt is dispatched. -/
inductive Purpose
  | pay (request : PayRequest) (admission : PaymentAdmission)
  | resume (capability : Option BenchmarkRunCapability)

def Purpose.capability : Purpose → Option BenchmarkRunCapability
  | pay request _ => request.capability
  | resume capability => capability

/-- What a caller can ask for. -/
inductive Call
  | pay (request : PayRequest)
  | resume (attemptId : Uuid) (capability : Option BenchmarkRunCapability)
  | reconcile (attemptId : Uuid) (capability : Option BenchmarkRunCapability)

/-- Where a call stands: what it does next. -/
inductive Stage
  | begin (call : Call)
  /-- Mark the dispatch of an attempt that was read as admitted. -/
  | dispatch (purpose : Purpose) (attemptId : Uuid)
  /-- Call the provider.  The dispatch is committed. -/
  | execute (purpose : Purpose) (attempt : PaymentAttempt)
  /-- Record what the provider answered. -/
  | record (purpose : Purpose) (attemptId : Uuid) (result : ProviderResult)
  /-- Read again what stands, after a dispatch was refused. -/
  | reread (request : PayRequest) (admission : PaymentAdmission) (attemptId : Uuid)
      (refusal : Failure)
  /-- Ask the provider what happened. -/
  | query (attemptId : Uuid) (question : PaymentQuery)
  /-- Record what the provider said. -/
  | recordQuery (attemptId : Uuid) (found : ProviderQueryResult)
  /-- Record that somebody asked. -/
  | appendReconciled (attemptId : Uuid) (found : ProviderQueryResult)
      (outcome : PaymentOutcome)

/-- What a stage finds outside of the application: the clocks, and what a provider
answers when it is called. -/
structure Input where
  clock : Readings
  result : ProviderResult
  found : ProviderQueryResult

/-- The database, every `execute` a provider was called with, and every answer a caller
got. -/
structure Shop where
  database : Database
  executions : List PaymentInstruction
  answers : List Answer

namespace Shop

/-- The shop after a commit. -/
def commit (shop : Shop) (database : Database) : Shop :=
  { shop with database := database }

/-- The call returns. -/
def tell (shop : Shop) (answer : Answer) : Shop × Option Stage :=
  ({ shop with answers := shop.answers ++ [answer] }, none)

/-- The call goes on. -/
def goOn (shop : Shop) (stage : Stage) : Shop × Option Stage :=
  (shop, some stage)

/-- One transaction, and where the call goes when it commits and when it raises. -/
def perform {α : Type} (shop : Shop) (transaction : Session α)
    (committed : α → Shop → Shop × Option Stage) (raised : Failure → Shop × Option Stage) :
    Shop × Option Stage :=
  match transaction shop.database with
  | .ok (value, database) => committed value (shop.commit database)
  | .error failure => raised failure

/-- What holds after the commit and after the refusal holds after the transaction. -/
theorem perform_induction {α : Type} {shop : Shop} {transaction : Session α}
    {committed : α → Shop → Shop × Option Stage} {raised : Failure → Shop × Option Stage}
    {motive : Shop × Option Stage → Prop}
    (onCommit : ∀ value database, transaction shop.database = .ok (value, database) →
      motive (committed value (shop.commit database)))
    (onRaise : ∀ failure, motive (raised failure)) :
    motive (shop.perform transaction committed raised) := by
  unfold perform
  cases outcome : transaction shop.database with
  | ok pair => exact onCommit pair.1 pair.2 outcome
  | error failure => exact onRaise failure

end Shop

/-- The first transaction of `resume`: the guard of the service, then the dispatch
mark. -/
def beginResume (attemptId : Uuid) (capability : Option BenchmarkRunCapability)
    (transactionTime : Instant) : Session PaymentAttempt := do
  requireMutationAuthority attemptId capability
  beginDispatch attemptId capability transactionTime

theorem beginResume_eq_ok {attemptId : Uuid} {capability : Option BenchmarkRunCapability}
    {transactionTime : Instant} {database final : Database} {attempt : PaymentAttempt}
    (committed : beginResume attemptId capability transactionTime database =
      .ok (attempt, final)) :
    beginDispatch attemptId capability transactionTime database = .ok (attempt, final) := by
  simp only [beginResume, Transaction.bind_eq_ok_iff] at committed
  obtain ⟨_, _, authority, begun⟩ := committed
  obtain rfl := requireMutationAuthority_eq_ok authority
  exact begun

/-- A dispatch that was refused inside `pay` is answered with what stands; every other
failure is the caller's. -/
def refusedDispatch (shop : Shop) (purpose : Purpose) (attemptId : Uuid) (failure : Failure) :
    Shop × Option Stage :=
  match purpose, failure with
  | .pay request admission, .conflict _ _ _ _ =>
      shop.goOn (.reread request admission attemptId failure)
  | _, _ => shop.tell (.raised failure)

/-- What the caller of a dispatch is told. -/
def dispatched (shop : Shop) (purpose : Purpose) (outcome : PaymentOutcome) :
    Shop × Option Stage :=
  match purpose with
  | .pay request admission =>
      shop.tell (.paid request { admission := admission, attempt := some outcome.attempt })
  | .resume _ => shop.tell (.resolved outcome)

section Stages

variable [CaseFolding] [OperationDigest]

/-- The first transaction of `reconcile`: the guard of the service, then the one of the
reconciliation. -/
def beginServiceReconcile (attemptId : Uuid) (capability : Option BenchmarkRunCapability) :
    Session ReconcileStart := do
  requireMutationAuthority attemptId capability
  beginReconcile attemptId capability

/-- How a call begins. -/
def Call.begin (input : Input) (shop : Shop) : Call → Shop × Option Stage
  | pay request =>
      shop.perform
        (admitPayment request.checkoutId request.merchantId request.idempotencyKey
          request.capability request.credentialId input.clock.evaluatedAt
          input.clock.admittedAt request.attemptId)
        (fun admission shop =>
          match admission.attempt with
          | none => shop.tell (.paid request { admission := admission })
          | some attempt =>
              if attempt.status = .admitted then
                shop.goOn (.dispatch (.pay request admission) attempt.id)
              else
                shop.tell (.paid request { admission := admission, attempt := some attempt }))
        (fun failure => shop.tell (.raised failure))
  | resume attemptId capability =>
      shop.perform (beginResume attemptId capability input.clock.transactionTime)
        (fun attempt shop => shop.goOn (.execute (.resume capability) attempt))
        (fun failure => shop.tell (.raised failure))
  | reconcile attemptId capability =>
      shop.perform (beginServiceReconcile attemptId capability)
        (fun start shop =>
          match start with
          | .settled outcome => shop.tell (.resolved outcome)
          | .ask question => shop.goOn (.query attemptId question))
        (fun failure => shop.tell (.raised failure))

/-- What a stage does, and where it leads. -/
def Stage.act (input : Input) : Stage → Shop → Shop × Option Stage
  | begin call, shop => call.begin input shop
  | dispatch purpose attemptId, shop =>
      shop.perform (beginDispatch attemptId purpose.capability input.clock.transactionTime)
        (fun attempt shop => shop.goOn (.execute purpose attempt))
        (refusedDispatch shop purpose attemptId)
  | execute purpose attempt, shop =>
      let called := { shop with executions := shop.executions ++ [instruction attempt] }
      called.goOn (.record purpose attempt.id input.result)
  | record purpose attemptId result, shop =>
      shop.perform (recordExecution attemptId result input.clock.transactionTime)
        (fun outcome shop => dispatched shop purpose outcome)
        (refusedDispatch shop purpose attemptId)
  | reread request admission attemptId refusal, shop =>
      shop.perform (findAttempt attemptId)
        (fun attempt shop =>
          if attempt.status = .admitted then shop.tell (.raised refusal)
          else shop.tell (.paid request { admission := admission, attempt := some attempt }))
        (fun failure => shop.tell (.raised failure))
  | query attemptId _, shop => shop.goOn (.recordQuery attemptId input.found)
  | recordQuery attemptId found, shop =>
      shop.perform (Payments.recordQuery attemptId found input.clock.transactionTime)
        (fun outcome shop => shop.goOn (.appendReconciled attemptId found outcome))
        (fun failure => shop.tell (.raised failure))
  | appendReconciled attemptId found outcome, shop =>
      shop.perform (Payments.appendReconciled attemptId found)
        (fun _ shop => shop.tell (.resolved outcome))
        (fun failure => shop.tell (.raised failure))

/-- Clients of the payment service beside everything else the services do. -/
def paymentSystem [PrintableText] :
    System Shop Call Stage Input (Operation × Readings) where
  enter := Stage.begin
  act := Stage.act
  outside call shop := shop.commit (serve call shop.database)

end Stages

end AgentRank.Payments
