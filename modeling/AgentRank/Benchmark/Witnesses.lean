import AgentRank.Benchmark.Endpoint

/-!
# Two witnesses of one mission

The tool ledger and the request ledger watch the same calls.  They agree on whether a
payment was attempted.  On the fault they agree when the first failure is one that the
server answers with a 5xx for the same side, since a refusal about the buyer's own state and
a credential that is not accepted are 4xx, and an admission that is refused is a 200.  On
the evidence they agree when the bodies that are too long to be kept say nothing new.
-/

namespace AgentRank.Benchmark

open Checkout Constraints Payments Store

/-- A text that a payload states under a key. -/
def TraceEvent.text? (event : TraceEvent) (key : String) : Option String :=
  match event.payload.lookup key with
  | some (.scalar (.string text)) => some text
  | _ => none

/-- `_provider_fault`: the mission ended on an outage of the provider. -/
def providerFault (agentEvidence : Option AgentExecutionEvidence) : Option ExecutionFault :=
  match agentEvidence with
  | none => none
  | some evidence =>
      match evidence.events.getLast? with
      | none => none
      | some last =>
          if last.eventType = "AGENT_ABORT" ∧ last.text? "reason" = some "provider_unavailable"
          then
            (evidence.events.reverse.find? fun event =>
              decide (event.eventType = "PROVIDER_ERROR")).map fun event =>
                let detail := (event.text? "detail").getD ""
                { origin := .agent
                  detail :=
                    "LLM provider failed: " ++
                      if detail.isEmpty then "provider failure without detail" else detail }
          else none

/-- The server did not answer a request. -/
def ServedRequest.failed (request : ServedRequest) : Bool :=
  decide (500 ≤ request.status)

/-- The interruption that a request which was not answered is. -/
def ServedRequest.fault (request : ServedRequest) : ExecutionFault :=
  if request.failure = some databaseUnavailable then
    { origin := .harness
      detail := "the benchmark database was unavailable"
      operation := some request.path }
  else
    { origin := .merchant
      detail := s!"the merchant answered {request.status}"
      operation := some request.path }

/-- `IsolatedMissionExecutor.fault`: what the server says comes first, then an outage of the
provider, and then the end of the process. -/
def IsolatedMissionExecutor.attributed (executor : IsolatedMissionExecutor) :
    Option ExecutionFault :=
  match executor.served.find? ServedRequest.failed with
  | some request => some request.fault
  | none =>
      match providerFault executor.agentEvidence with
      | some provider => some provider
      | none => executor.fault

section Agreement

variable [AnswerBodies]

/-- Both witnesses report the same origin or none, the same attempt to pay, and the same
evidence. -/
structure WitnessesAgree (calls : List BuyerCall) (executor : IsolatedMissionExecutor) :
    Prop where
  origin : (ToolLedger.of calls).fault.map ExecutionFault.origin =
    executor.attributed.map ExecutionFault.origin
  payment : (ToolLedger.of calls).paymentAttempted = paymentAttempted executor.served
  evidence : (ToolLedger.of calls).evidence = (RequestLedger.of calls).evidence

/-- What was raised is a failure of the same side for the server. -/
def ServiceError.alike : ServiceError → Bool
  | .upstream reason => decide (reason ≠ databaseUnavailable)
  | .database _ unavailable => unavailable
  | .unexpected _ => true
  | .notFound _ _ | .conflict _ _ | .unauthenticated => false

/-- A call that either witness takes for a failure. -/
def BuyerCall.fails (call : BuyerCall) : Bool :=
  call.toolOrigin.isSome || call.served.failed

/-- The first call that either witness takes for a failure is one for both, of the same
side; or it was not authenticated, and the first request that the server did not answer
met an unavailable database. -/
def FailAlike (calls : List BuyerCall) : Prop :=
  ∀ first, calls.find? BuyerCall.fails = some first →
    first.raised?.any ServiceError.alike = true ∨
      (first.raised? = some .unauthenticated ∧
        ∃ outage, calls.find? (fun call => call.served.failed) = some outage ∧
          outage.served.failure = some databaseUnavailable)

/-- The answers that are kept end as all answers do. -/
structure KeptAlike (calls : List BuyerCall) : Prop where
  decision : lastDecision (calls.filterMap BuyerCall.answer?) =
    lastDecision (calls.filterMap BuyerCall.kept?)
  checkout : (calls.filterMap BuyerCall.answer?).getLast?.map CommerceAnswer.checkoutId =
    (calls.filterMap BuyerCall.kept?).getLast?.map CommerceAnswer.checkoutId
  stock : lastRefusesStock (calls.filterMap BuyerCall.answer?) =
    lastRefusesStock (calls.filterMap BuyerCall.kept?)

end Agreement

/-! ## One call for both witnesses -/

/-- The side that the server says a call failed on, when it failed. -/
def BuyerCall.servedOrigin (call : BuyerCall) : Option FaultOrigin :=
  if call.served.failed then some call.served.fault.origin else none

/-- How a call looks to the two witnesses. -/
inductive Seen (call : BuyerCall) : Prop
  /-- Neither takes it for a failure. -/
  | fine (tool : call.toolOrigin = none) (server : call.served.failed = false)
  /-- Both do, and name the same side. -/
  | alike (origin : FaultOrigin) (tool : call.toolOrigin = some origin)
      (server : call.servedOrigin = some origin)
      (same : call.raised?.any ServiceError.alike = true)
  /-- The server fails, and the ledger names another side. -/
  | apart (origin other : FaultOrigin) (tool : call.toolOrigin = some origin)
      (server : call.servedOrigin = some other) (differ : origin ≠ other)
      (notSame : call.raised?.any ServiceError.alike = false)
      (authenticated : call.raised? ≠ some .unauthenticated)
  /-- The buyer's own state is wrong, which the server answers. -/
  | buyer (tool : call.toolOrigin = some .agent) (server : call.served.failed = false)
      (notSame : call.raised?.any ServiceError.alike = false)
      (authenticated : call.raised? ≠ some .unauthenticated)
  /-- The credential is not accepted, which the server answers. -/
  | credential (tool : call.toolOrigin = some .harness) (server : call.served.failed = false)
      (unauthenticated : call.raised? = some .unauthenticated)

theorem toolOrigin_of_raised {call : BuyerCall} {error : ServiceError}
    (raised : call.raised? = some error) :
    call.toolOrigin = ToolCall.origin { operation := call.operation, outcome := watched error } := by
  unfold BuyerCall.toolOrigin BuyerCall.recorded
  rw [raised]
  exact List.findSome?_singleton

theorem served_of_raised {call : BuyerCall} {error : ServiceError}
    (raised : call.raised? = some error) :
    call.served.status = (handled error).1 ∧
      call.served.failure = if 500 ≤ (handled error).1 then (handled error).2 else none := by
  unfold BuyerCall.served
  rw [raised]
  exact ⟨rfl, rfl⟩

/-- A call that raised nothing was answered with a 2xx. -/
theorem failed_of_returned {call : BuyerCall} (returned : call.raised? = none) :
    call.served.failed = false := by
  cases call with
  | plain operation outcome =>
      simp only [ServedRequest.failed, BuyerCall.served, returned]
      cases operation <;> rfl
  | prepareCheckout checkoutId outcome =>
      simp only [ServedRequest.failed, BuyerCall.served, returned]
      rfl
  | completeCheckout checkoutId outcome =>
      simp only [ServedRequest.failed, BuyerCall.served, returned]
      rfl

/-- A payment answer is a failure of the buyer, or none. -/
theorem origin_admissionOutcome (operation : String) (admission : PaymentAdmission) :
    ToolCall.origin { operation := operation, outcome := admissionOutcome admission } = none ∨
      ToolCall.origin { operation := operation, outcome := admissionOutcome admission } =
        some .agent := by
  unfold admissionOutcome
  cases admission.admitted with
  | true => exact .inl rfl
  | false =>
      cases admission.refusal with
      | none => exact .inl rfl
      | some refusal =>
          by_cases denied : refusal.value ∈ authorizationRefusals
          · exact .inl (by simp [denied, ToolCall.origin])
          · exact .inr (by simp [denied, ToolCall.origin])

/-- The one call that returns and fails is a payment whose admission was refused. -/
theorem toolOrigin_of_returned {call : BuyerCall} (returned : call.raised? = none) :
    call.toolOrigin = none ∨ call.toolOrigin = some .agent := by
  unfold BuyerCall.toolOrigin BuyerCall.recorded
  rw [returned]
  cases call with
  | plain operation outcome => exact .inl rfl
  | prepareCheckout checkoutId outcome => exact .inl rfl
  | completeCheckout checkoutId outcome =>
      cases outcome with
      | error error => cases returned
      | ok admission =>
          rw [List.findSome?_cons, List.findSome?_singleton]
          exact origin_admissionOutcome _ admission

/-- Every call is seen in one of the five ways. -/
theorem seen (call : BuyerCall) : Seen call := by
  cases raised : call.raised? with
  | none =>
      have server := failed_of_returned raised
      rcases toolOrigin_of_returned raised with tool | tool
      · exact .fine tool server
      · exact .buyer tool server (by rw [raised]; rfl) (by rw [raised]; nofun)
  | some error =>
      have tool := toolOrigin_of_raised raised
      obtain ⟨status, failure⟩ := served_of_raised raised
      have notFailed : ¬500 ≤ (handled error).1 → call.served.failed = false := fun below => by
        simp [ServedRequest.failed, status, below]
      have failed : 500 ≤ (handled error).1 → call.served.failed = true := fun above => by
        simp [ServedRequest.failed, status, above]
      cases error with
      | notFound resource identifier =>
          have server := notFailed (by simp [handled])
          simp only [watched] at tool
          split at tool
          · exact .fine tool server
          · exact .buyer tool server (by rw [raised]; rfl) (by rw [raised]; nofun)
      | conflict reason detail =>
          have server := notFailed (by simp [handled])
          simp only [watched] at tool
          split at tool
          · exact .fine tool server
          · exact .buyer tool server (by rw [raised]; rfl) (by rw [raised]; nofun)
      | unauthenticated => exact .credential tool (notFailed (by simp [handled])) raised
      | upstream reason =>
          have server := failed (by simp [handled])
          have origin : call.servedOrigin =
              some (if reason = databaseUnavailable then .harness else .merchant) := by
            simp only [BuyerCall.servedOrigin, server, if_true, ServedRequest.fault, failure,
              handled, Option.some.injEq]
            by_cases coded : reason = databaseUnavailable <;> simp [coded]
          by_cases coded : reason = databaseUnavailable
          · rw [if_pos coded] at origin
            exact .apart .merchant .harness tool origin (by decide)
              (by simp [raised, ServiceError.alike, coded]) (by rw [raised]; nofun)
          · rw [if_neg coded] at origin
            exact .alike .merchant tool origin (by simp [raised, ServiceError.alike, coded])
      | database exception unavailable =>
          cases unavailable with
          | true =>
              have server := failed (by simp [handled])
              have origin : call.servedOrigin = some .harness := by
                simp [BuyerCall.servedOrigin, server, ServedRequest.fault, failure, handled]
              exact .alike .harness tool origin (by rw [raised]; rfl)
          | false =>
              have server := failed (by simp [handled])
              have origin : call.servedOrigin = some .merchant := by
                simp [BuyerCall.servedOrigin, server, ServedRequest.fault, failure, handled]
              exact .apart .harness .merchant tool origin (by decide) (by rw [raised]; rfl)
                (by rw [raised]; nofun)
      | unexpected exception =>
          have server := failed (by simp [handled])
          have origin : call.servedOrigin = some .merchant := by
            simp [BuyerCall.servedOrigin, server, ServedRequest.fault, failure, handled]
          exact .alike .merchant tool origin (by rw [raised]; rfl)

theorem origin_fault_iff (request : ServedRequest) :
    request.fault.origin = .harness ↔ request.failure = some databaseUnavailable := by
  unfold ServedRequest.fault
  split <;> simp_all

/-- The server never names the buyer. -/
theorem origin_fault_ne_agent (request : ServedRequest) : request.fault.origin ≠ .agent := by
  unfold ServedRequest.fault
  split <;> simp

theorem findSome?_servedOrigin (calls : List BuyerCall) :
    calls.findSome? BuyerCall.servedOrigin =
      (calls.find? fun call => call.served.failed).map fun call => call.served.fault.origin := by
  induction calls with
  | nil => rfl
  | cons call calls inductionHypothesis =>
      rw [List.findSome?_cons, List.find?_cons, inductionHypothesis, BuyerCall.servedOrigin]
      cases call.served.failed <;> rfl

section Cons

variable {call : BuyerCall} {calls : List BuyerCall}

theorem failAlike_cons_of_fine (tool : call.toolOrigin = none)
    (server : call.served.failed = false) : FailAlike (call :: calls) ↔ FailAlike calls := by
  have fine : call.fails = false := by simp [BuyerCall.fails, tool, server]
  simp [FailAlike, fine, server]

theorem failAlike_cons_of_fails {origin : FaultOrigin} (tool : call.toolOrigin = some origin) :
    FailAlike (call :: calls) ↔
      call.raised?.any ServiceError.alike = true ∨
        (call.raised? = some .unauthenticated ∧
          ∃ outage, (call :: calls).find? (fun call => call.served.failed) = some outage ∧
            outage.served.failure = some databaseUnavailable) := by
  have fails : call.fails = true := by simp [BuyerCall.fails, tool]
  simp [FailAlike, List.find?_cons, fails]

end Cons

/-- Both witnesses name the same side exactly when the first failure is alike for both. -/
theorem origins_eq_iff (calls : List BuyerCall) :
    calls.findSome? BuyerCall.toolOrigin = calls.findSome? BuyerCall.servedOrigin ↔
      FailAlike calls := by
  induction calls with
  | nil => simp [FailAlike]
  | cons call calls inductionHypothesis =>
      rw [List.findSome?_cons]
      cases seen call with
      | fine tool server =>
          rw [tool, failAlike_cons_of_fine tool server, ← inductionHypothesis,
            List.findSome?_cons, BuyerCall.servedOrigin, server]
          rfl
      | alike origin tool server same =>
          rw [tool, failAlike_cons_of_fails tool, List.findSome?_cons, server]
          exact iff_of_true rfl (.inl same)
      | apart origin other tool server differ notSame authenticated =>
          rw [tool, failAlike_cons_of_fails tool, List.findSome?_cons, server]
          apply iff_of_false
          · simpa using differ
          · simp [notSame, authenticated]
      | buyer tool server notSame authenticated =>
          rw [tool, failAlike_cons_of_fails tool, findSome?_servedOrigin]
          apply iff_of_false
          · intro same
            obtain ⟨outage, _, origin⟩ := Option.map_eq_some_iff.mp same.symm
            exact origin_fault_ne_agent _ origin
          · simp [notSame, authenticated]
      | credential tool server unauthenticated =>
          rw [tool, failAlike_cons_of_fails tool, findSome?_servedOrigin, unauthenticated,
            eq_comm, Option.map_eq_some_iff]
          simp only [Option.any_some, ServiceError.alike, Bool.false_eq_true, false_or,
            true_and, origin_fault_iff]

section Agreement

variable [AnswerBodies] {calls : List BuyerCall} {executor : IsolatedMissionExecutor}

/-- Of an executor that ends cleanly, the fault is what the server says. -/
theorem origin_attributed (served : executor.served = (RequestLedger.of calls).served)
    (provider : providerFault executor.agentEvidence = none) (clean : executor.fault = none) :
    executor.attributed.map ExecutionFault.origin =
      calls.findSome? BuyerCall.servedOrigin := by
  rw [IsolatedMissionExecutor.attributed, served, RequestLedger.served_of, List.find?_map,
    findSome?_servedOrigin, provider, clean]
  change _ = Option.map _ (calls.find? (ServedRequest.failed ∘ BuyerCall.served))
  cases calls.find? (ServedRequest.failed ∘ BuyerCall.served) <;> rfl

/-- The evidence is the same exactly when the answers that are kept end as all answers do. -/
theorem evidence_eq_iff :
    (ToolLedger.of calls).evidence = (RequestLedger.of calls).evidence ↔ KeptAlike calls := by
  rw [ToolLedger.evidence_of, RequestLedger.evidence_of, evidenceOf_eq, evidenceOf_eq,
    CommerceEvidence.mk.injEq]
  exact ⟨fun ⟨decision, stock, checkout⟩ => ⟨decision, checkout, stock⟩,
    fun ⟨decision, checkout, stock⟩ => ⟨decision, stock, checkout⟩⟩

/-- Of an executor that ends cleanly and a provider that does not fail, the two witnesses
agree exactly when the first failure is alike for both and the kept answers end as all do. -/
theorem witnessesAgree_iff (calls : List BuyerCall) (executor : IsolatedMissionExecutor)
    (served : executor.served = (RequestLedger.of calls).served)
    (provider : providerFault executor.agentEvidence = none) (clean : executor.fault = none) :
    WitnessesAgree calls executor ↔ FailAlike calls ∧ KeptAlike calls := by
  constructor
  · rintro ⟨origin, _, evidence⟩
    rw [ToolLedger.origin_fault_of, origin_attributed served provider clean] at origin
    exact ⟨(origins_eq_iff calls).mp origin, evidence_eq_iff.mp evidence⟩
  · rintro ⟨failAlike, keptAlike⟩
    refine ⟨?_, ?_, evidence_eq_iff.mpr keptAlike⟩
    · rw [ToolLedger.origin_fault_of, origin_attributed served provider clean]
      exact (origins_eq_iff calls).mpr failAlike
    · rw [ToolLedger.paymentAttempted_of, served, RequestLedger.paymentAttempted_served]

end Agreement

section Sample

/-- Bodies of three hundred bytes. -/
local instance shortBodies : AnswerBodies where
  Body := CommerceAnswer
  length _ := 300
  body answer := answer
  readBody := some
  readBack _ _ := rfl

/-- The buyer qualifies a mandate that nobody created. -/
def unknownMandate : List BuyerCall :=
  [.plain (.stateRequirements 5) (.error (.notFound "mandate" "5"))]

/-- The merchant does not have the variant that is asked for. -/
def unknownVariant : List BuyerCall :=
  [.plain .createCheckout (.error (.notFound "variant" "3"))]

/-- An executor whose process ended cleanly. -/
def cleanExecutor (calls : List BuyerCall) : IsolatedMissionExecutor where
  credentials := none
  timeout := "180"
  grant := none
  settled := true
  fault := none
  agentEvidence := none
  served := (RequestLedger.of calls).served
  settlements := []
  requests := 0

/-- In process the buyer failed.  Isolated, nobody did. -/
theorem unknownMandate_seen_apart :
    (ToolLedger.of unknownMandate).fault.map ExecutionFault.origin = some .agent ∧
      (cleanExecutor unknownMandate).attributed = none ∧
      ¬WitnessesAgree unknownMandate (cleanExecutor unknownMandate) := by
  have tool : (ToolLedger.of unknownMandate).fault.map ExecutionFault.origin = some .agent := by
    decide +kernel
  have server : (cleanExecutor unknownMandate).attributed = none := by decide +kernel
  refine ⟨tool, server, fun agree => ?_⟩
  have same := agree.origin
  rw [tool, server] at same
  cases same

/-- A refusal about the catalog is alike for both. -/
theorem witnessesAgree_iff_sample :
    WitnessesAgree unknownVariant (cleanExecutor unknownVariant) := by
  refine (witnessesAgree_iff unknownVariant (cleanExecutor unknownVariant) rfl rfl rfl).mpr
    ⟨?_, rfl, rfl, rfl⟩
  intro first found
  have nothing : (unknownVariant.find? BuyerCall.fails).isNone = true := by decide +kernel
  rw [found] at nothing
  cases nothing

end Sample

end AgentRank.Benchmark
