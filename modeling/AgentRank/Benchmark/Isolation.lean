import AgentRank.Benchmark.Permits
import AgentRank.Benchmark.Report

/-!
# Carrying one mission out in processes of its own

This module models the spending half of `benchmark/isolation.py`, and what the processes
it starts do with their grant (`benchmark/worker.py`, `benchmark/llm.py`).  A mission may
start several processes, one for each provider credential, against one reservation.

The executor settles the reservation once.  What it was charged is compared with the
requests that all processes of the mission made.
-/

namespace AgentRank.Benchmark

open Constraints Store

structure TraceEvent where
  eventType : String
  payload : List (String × Json)

structure AgentExecutionEvidence where
  events : List TraceEvent

structure ServedRequest where
  method : String
  path : String
  status : Nat
  failure : Option String := none
deriving DecidableEq

def paymentPathSuffix : String := "/payments"

/-- `RequestLedger.payment_attempted`. -/
def paymentAttempted (served : List ServedRequest) : Bool :=
  served.any fun request =>
    decide (request.method = "POST") && request.path.endsWith paymentPathSuffix

/-- The document that a worker wrote, part by part: each part is read, or says why not. -/
structure WorkerDocument where
  agentEvidence : Except String (Option AgentExecutionEvidence)
  providerAttempts : Except String (Option Nat)
  report : Except String ExecutorReport

inductive WorkerOutput
  | notJson
  | document (document : WorkerDocument)

/-- How starting a process and talking to it ended. -/
inductive WorkerEnding
  | unstartable (detail : String)
  | timedOut
  | exited (returncode : Int) (stdout : WorkerOutput) (stderr : String)
  /-- Any other exception on this side of the boundary. -/
  | boundaryFailed (exception : String)

def exitNotIsolated : Int := 2
def exitProtocol : Int := 3
def exitFailed : Int := 4
def exitAllowanceExhausted : Int := 5

/-- The process ended before it read a mission. -/
def WorkerEnding.readNoMission : WorkerEnding → Bool
  | unstartable _ => true
  | exited returncode _ _ => returncode = exitNotIsolated ∨ returncode = exitProtocol
  | timedOut | boundaryFailed _ => false

/-- One process of a mission, and the provider requests that it made.  It was handed a
grant, it stayed within it, and what it says of its own requests is true. -/
structure WorkerProcess (handed : Option Nat) where
  ending : WorkerEnding
  served : List ServedRequest
  requests : Nat
  withinGrant : ∀ granted, handed = some granted → requests ≤ granted
  noMissionNoRequest : ending.readNoMission = true → requests = 0
  truthful : ∀ document stderr attempts,
    ending = .exited 0 (.document document) stderr →
    document.providerAttempts = .ok (some attempts) → attempts = requests

/-! ## The worker -/

/-- One mission's reserved provider requests. -/
structure ProviderRequestAllowance where
  granted : Nat
  attempts : Nat
  attemptsBounded : attempts ≤ granted

/-- Spend one reserved request, or refuse before anything leaves the process. -/
def ProviderRequestAllowance.respond (allowance : ProviderRequestAllowance) :
    Option ProviderRequestAllowance :=
  if left : allowance.attempts < allowance.granted then
    some
      { granted := allowance.granted
        attempts := allowance.attempts + 1
        attemptsBounded := left }
  else none

/-- What the buyer comes to when its provider never refuses it a request. -/
inductive BuyerEnding
  | reported (report : ExecutorReport) (evidence : Option AgentExecutionEvidence)
  | failed (exception : String)

/-- A buyer that asks for some requests and then ends. -/
structure Buyer where
  wanted : Nat
  ending : BuyerEnding

/-- Ask for requests until the allowance is exhausted or enough were answered. -/
def askFor : Nat → ProviderRequestAllowance → ProviderRequestAllowance × Bool
  | 0, allowance => (allowance, true)
  | wanted + 1, allowance =>
      match allowance.respond with
      | none => (allowance, false)
      | some spent => askFor wanted spent

/-- An allowance that answered everything it was asked counts it. -/
theorem askFor_attempts (wanted : Nat) (allowance : ProviderRequestAllowance) :
    (askFor wanted allowance).1.granted = allowance.granted ∧
      ((askFor wanted allowance).2 = true →
        (askFor wanted allowance).1.attempts = allowance.attempts + wanted) := by
  induction wanted generalizing allowance with
  | zero => simp [askFor]
  | succ wanted inductionHypothesis =>
      simp only [askFor, ProviderRequestAllowance.respond]
      split
      · simp
      · next spent answered =>
          split at answered
          · cases answered
            refine ⟨(inductionHypothesis _).1, fun enough => ?_⟩
            have counted := (inductionHypothesis _).2 enough
            rw [counted, Nat.add_right_comm, Nat.add_assoc]
          · cases answered

/-- `worker.main`: how the process ends, and the allowance it leaves. -/
def Worker.main (leaked malformed : Option String) (granted : Nat) (buyer : Buyer) :
    WorkerEnding × Nat :=
  match leaked, malformed with
  | some leaked, _ => (.exited exitNotIsolated .notJson s!"refused: {leaked}", 0)
  | none, some malformed => (.exited exitProtocol .notJson s!"refused: {malformed}", 0)
  | none, none =>
      match askFor buyer.wanted ⟨granted, 0, Nat.zero_le _⟩, buyer.ending with
      | (allowance, false), _ =>
          (.exited exitAllowanceExhausted .notJson
              s!"stopped: this mission reserved {granted} provider requests and has made {allowance.attempts}",
            allowance.attempts)
      | (allowance, true), .failed exception =>
          (.exited exitFailed .notJson s!"failed: {exception}", allowance.attempts)
      | (allowance, true), .reported report evidence =>
          (.exited 0
              (.document
                { agentEvidence := .ok evidence
                  providerAttempts := .ok (some allowance.attempts)
                  report := .ok report })
              "",
            allowance.attempts)

/-- The worker of this repository keeps what is assumed of a process. -/
def Worker.process (leaked malformed : Option String) (granted : Nat) (buyer : Buyer)
    (served : List ServedRequest) : WorkerProcess (some granted) where
  ending := (Worker.main leaked malformed granted buyer).1
  served := served
  requests := (Worker.main leaked malformed granted buyer).2
  withinGrant := by
    rintro _ ⟨⟩
    have sameGrant := (askFor_attempts buyer.wanted ⟨granted, 0, Nat.zero_le _⟩).1
    have bounded := (askFor buyer.wanted ⟨granted, 0, Nat.zero_le _⟩).1.attemptsBounded
    rw [sameGrant] at bounded
    unfold Worker.main
    split
    · exact Nat.zero_le _
    · exact Nat.zero_le _
    · split <;> simp_all
  noMissionNoRequest := by
    unfold Worker.main
    split
    · simp
    · simp
    · split <;>
        simp [WorkerEnding.readNoMission, exitNotIsolated, exitProtocol,
          exitAllowanceExhausted, exitFailed]
  truthful := by
    intro document stderr attempts
    unfold Worker.main
    split
    · simp [exitNotIsolated]
    · simp [exitProtocol]
    · split
      · simp [exitAllowanceExhausted]
      · simp [exitFailed]
      · rintro ⟨⟩ ⟨⟩
        rfl

/-- The keys a run may hand its workers, and which one is next. -/
structure ProviderCredentialRotation where
  keys : List String
  index : Nat
  keysPresent : keys ≠ []

namespace ProviderCredentialRotation

def count (credentials : ProviderCredentialRotation) : Nat :=
  credentials.keys.length

/-- Move to the next key, wrapping round to the first after the last. -/
def advance (credentials : ProviderCredentialRotation) : ProviderCredentialRotation :=
  { credentials with index := (credentials.index + 1) % credentials.count }

end ProviderCredentialRotation

/-! ## The executor -/

/-- What fails while a mission is carried out: the process, or anything else. -/
inductive MissionFailure
  | worker (detail : String) (origin : FaultOrigin)
  | other (exception : String)
deriving DecidableEq

/-- The executor, and what it did for the mission it is on: what it told the permit
ledger, and the provider requests that the processes it started made. -/
structure IsolatedMissionExecutor where
  credentials : Option ProviderCredentialRotation
  timeout : String
  grant : Option ProviderGrant
  settled : Bool
  fault : Option ExecutionFault
  agentEvidence : Option AgentExecutionEvidence
  served : List ServedRequest
  settlements : List (Uuid × Settlement)
  requests : Nat

/-- `_exited`: whose failure an exit code describes. -/
def exitedOrigin (returncode : Int) : FaultOrigin :=
  if returncode = exitNotIsolated ∨ returncode = exitProtocol ∨
      returncode = exitAllowanceExhausted then .harness
  else .agent

/-- `_said`: what the worker wrote for a human, bounded. -/
def said (stderr : String) : String :=
  let text := Text.strip stderr
  if text.isEmpty then "it said nothing" else String.ofList (text.toList.take 500)

/-- The mission ended on the provider before the buyer did anything at all. -/
def untouchedProviderFailure (served : List ServedRequest)
    (agentEvidence : Option AgentExecutionEvidence) (report : ExecutorReport) : Bool :=
  if !served.isEmpty || paymentAttempted served then false
  else if report.selection.isSome || report.checkout.isSome then false
  else if report.payment.isSome then false
  else
    match agentEvidence.bind fun evidence => evidence.events.getLast? with
    | none => false
    | some last =>
        match last.payload.lookup "reason" with
        | some (.scalar (.string reason)) =>
            last.eventType = "AGENT_ABORT" && reason = "provider_unavailable"
        | _ => false

namespace IsolatedMissionExecutor

/-- `begin`: forget the previous mission. -/
def forget (executor : IsolatedMissionExecutor) : IsolatedMissionExecutor :=
  { executor with fault := none, agentEvidence := none, served := [] }

/-- `admit`: take up the reservation of a mission. -/
def admitMission (executor : IsolatedMissionExecutor) (grant : ProviderGrant) :
    IsolatedMissionExecutor :=
  { executor with grant := some grant, settled := false, settlements := [], requests := 0 }

/-- `_settle`: close the reservation once, and drop it. -/
def settle (executor : IsolatedMissionExecutor) (settlement : Settlement) :
    IsolatedMissionExecutor :=
  match executor.grant with
  | none => executor
  | some grant =>
      if executor.settled then executor
      else
        { executor with
          settled := true
          grant := none
          settlements := executor.settlements ++ [(grant.permitId, settlement)] }

/-- `_settle_exit`: what a non zero exit establishes about provider calls. -/
def settleExit (executor : IsolatedMissionExecutor) (returncode : Int) :
    IsolatedMissionExecutor :=
  if returncode = exitNotIsolated ∨ returncode = exitProtocol then executor.settle .release
  else if returncode = exitAllowanceExhausted then
    match executor.grant with
    | some grant => executor.settle (.reconcile grant.grantedRequests)
    | none => executor.settle .assumeSpent
  else executor.settle .assumeSpent

/-- The part of `_through` that reads what a clean exit left. -/
def readDocument (executor : IsolatedMissionExecutor) (document : WorkerDocument) :
    IsolatedMissionExecutor × Except MissionFailure (ExecutorReport × Option Nat) :=
  let refused (executor : IsolatedMissionExecutor) (malformed : String) :=
    (executor.settle .assumeSpent,
      .error (.worker s!"the executor process reported {malformed}" .agent))
  match document.agentEvidence with
  | .error malformed => refused executor malformed
  | .ok agentEvidence =>
      let executor := { executor with agentEvidence := agentEvidence }
      match document.providerAttempts, document.report with
      | .error malformed, _ => refused executor malformed
      | .ok _, .error malformed => refused executor malformed
      | .ok attempts, .ok report => (executor, .ok (report, attempts))

/-- What is known on this side once a process has ended. -/
def watch {handed : Option Nat} (executor : IsolatedMissionExecutor)
    (process : WorkerProcess handed) : IsolatedMissionExecutor :=
  { executor with
    served := executor.served ++ process.served
    requests := executor.requests + process.requests }

/-- `_through`: start one process, and read what came back. -/
def through {handed : Option Nat} (executor : IsolatedMissionExecutor)
    (process : WorkerProcess handed) :
    IsolatedMissionExecutor × Except MissionFailure (ExecutorReport × Option Nat) :=
  let executor := executor.watch process
  match process.ending with
  | .unstartable detail =>
      (executor.settle .release,
        .error (.worker s!"the executor process could not be started: {detail}" .harness))
  | .timedOut =>
      (executor.settle .assumeSpent,
        .error (.worker s!"the executor process did not finish in {executor.timeout}s" .agent))
  | .boundaryFailed exception => (executor, .error (.other exception))
  | .exited returncode stdout stderr =>
      if returncode ≠ 0 then
        (executor.settleExit returncode,
          .error
            (.worker s!"the executor process exited {returncode}: {said stderr}"
              (exitedOrigin returncode)))
      else
        match stdout with
        | .notJson =>
            (executor.settle .assumeSpent,
              .error (.worker "the executor process did not report JSON" .agent))
        | .document document => executor.readDocument document

/-- Move to the next credential, with a clean record of what the merchant served. -/
def rotate (executor : IsolatedMissionExecutor) : IsolatedMissionExecutor :=
  { executor with
    credentials := executor.credentials.map ProviderCredentialRotation.advance
    served := [] }

/-- The keys that a mission has not tried yet when its first process starts. -/
def sparedKeys (executor : IsolatedMissionExecutor) : Nat :=
  match executor.credentials with
  | none => 0
  | some credentials => credentials.count - 1

/-- `_attempted`: the processes that a mission may start, each with the grant handed to
it.  `keysLeft` is `credentials.count - tried`, and one process runs without any. -/
def attempted (processes : (tried : Nat) → (handed : Option Nat) → WorkerProcess handed) :
    (keysLeft tried spent : Nat) → Option Nat → IsolatedMissionExecutor →
      IsolatedMissionExecutor × Except MissionFailure ExecutorReport
  | keysLeft, tried, spent, handed, executor =>
      match executor.through (processes tried handed) with
      | (executor, .error failure) => (executor, .error failure)
      | (executor, .ok (report, none)) => (executor.settle .assumeSpent, .ok report)
      | (executor, .ok (report, some attempts)) =>
          let spent := spent + attempts
          let remaining := executor.grant.map fun grant => grant.grantedRequests - spent
          match keysLeft with
          | 0 => (executor.settle (.reconcile spent), .ok report)
          | keysLeft + 1 =>
              if remaining = some 0 ∨
                  !untouchedProviderFailure executor.served executor.agentEvidence report then
                (executor.settle (.reconcile spent), .ok report)
              else attempted processes keysLeft (tried + 1) spent remaining executor.rotate

/-- What `__call__` makes of the end of a mission, before its `finally`. -/
def conclude (executor : IsolatedMissionExecutor) (merchantId : Uuid) :
    Except MissionFailure ExecutorReport → IsolatedMissionExecutor × ExecutorReport
  | .ok report => (executor, report)
  | .error (.worker detail origin) =>
      ({ executor with fault := some { origin := origin, detail := detail } },
        { merchantId := merchantId })
  | .error (.other exception) =>
      ({ executor with
          fault :=
            some
              { origin := .harness
                detail := s!"the isolated boundary failed: {exception}" } },
        { merchantId := merchantId })

/-- `__call__`: carry one mission out. -/
def call (executor : IsolatedMissionExecutor) (provisioned : Except String Unit)
    (processes : (tried : Nat) → (handed : Option Nat) → WorkerProcess handed)
    (merchantId : Uuid) : IsolatedMissionExecutor × ExecutorReport :=
  match provisioned with
  | .error exception =>
      ({ executor.settle .release with
          fault :=
            some
              { origin := .harness
                detail := s!"trusted mission provisioning failed: {exception}" } },
        { merchantId := merchantId })
  | .ok () =>
      let handed := executor.grant.map ProviderGrant.grantedRequests
      let (executor, outcome) :=
        executor.attempted processes executor.sparedKeys 0 0 handed
      let (executor, report) := executor.conclude merchantId outcome
      let executor := executor.settle .assumeSpent
      ({ executor with
          credentials := executor.credentials.map ProviderCredentialRotation.advance },
        report)

end IsolatedMissionExecutor

end AgentRank.Benchmark
