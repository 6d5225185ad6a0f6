import AgentRank.Benchmark.AgentTrace
import AgentRank.Benchmark.LlmTools

/-!
# The loop of a model buyer

This module models `ProviderRequestAllowance` and `LLMBuyer.execute` of `benchmark/llm.py`: the
turns of a mission, the attempts of a turn at the provider, and the calls that an answer of the
provider makes.

What surrounds a buyer is given once and for all: every reading of the clock, what becomes of
every request that reaches the provider, and what the merchant answers at the time of every call.
A buyer's state counts how far it has read.  Beside what the source keeps, the state lists every
attempt and every answered call, so that what a run did can be spoken about.
-/

namespace AgentRank.Benchmark.Llm

open Arithmetic Constraints Store Text

def throttleRetryLimit : Nat := 3
def throttleBaseWaitSeconds : ℚ := 5
def throttleMaxWaitSeconds : ℚ := 30

/-- What the loop reads of `AgentConfiguration`. -/
structure AgentLimits where
  provider : String
  requestedModel : String
  maxModelTurns : Nat
  maxToolCalls : Nat
  deadlineSeconds : ℚ
  providerTimeoutSeconds : ℚ
  turnsPositive : 1 ≤ maxModelTurns
  callsPositive : 1 ≤ maxToolCalls
  deadlinePositive : 0 < deadlineSeconds
  timeoutPositive : 0 < providerTimeoutSeconds

structure ProviderResponse where
  responseId : Option String
  model : Option String
  toolCalls : List ProviderToolCall := []
  text : Option String := none
  refusal : Option String := none
  status : String := "completed"
  providerStatus : Option String := none
  usage : Option Json := none
  requestId : Option String := none

/-- What asking the provider may raise. -/
inductive ProviderError
  | throttled (detail : String) (retryAfterSeconds : Option ℚ)
  | unavailable (detail : String)
  | protocol (detail : String)
  | timeout

def ProviderError.kind : ProviderError → String
  | throttled _ _ => "ProviderThrottledError"
  | unavailable _ => "ProviderUnavailableError"
  | protocol _ => "ProviderProtocolError"
  | timeout => "TimeoutError"

/-- `str(error)`. -/
def ProviderError.detail : ProviderError → String
  | throttled detail _ => detail
  | unavailable detail => detail
  | protocol detail => detail
  | timeout => ""

/-- Everything a buyer meets, in the order it meets it. -/
structure Surroundings where
  clock : Nat → ℚ
  provider : Nat → Except ProviderError ProviderResponse
  merchant : Nat → BuyerSurface

/-- What leaves the loop without a report.  What a call raised is kept with the call. -/
inductive Escaped
  | allowanceExhausted (granted attempted : Nat)
  | uncaught (call : ProviderToolCall) (raised : ToolRaised)

/-- A request as it was written into the evidence, and the time that was left for it. -/
structure Attempt where
  turn : Nat
  previous : Option String
  input : List Json
  timeLeft : ℚ

def Attempt.fields (attempt : Attempt) : List (String × Json) :=
  [("invocation_sequence", Payload.number attempt.turn),
    ("previous_response_id", Payload.optionalText attempt.previous),
    ("input", .array attempt.input)]

/-- A call that was answered. -/
structure AnsweredCall where
  turn : Nat
  call : ProviderToolCall
  answer : ToolAnswer

structure BuyerState where
  readings : Nat := 0
  attempts : Nat := 0
  requests : List Attempt := []
  evidence : AgentExecutionEvidence := {}
  added : Nat := 0
  actualModel : Option String := none
  turns : Nat := 0
  previous : Option String := none
  input : List Json
  selection : Option ReportedSelection := none
  checkout : Option ReportedCheckout := none
  payment : Option ReportedPayment := none
  calls : Nat := 0
  attempted : List Attempt := []
  answered : List AnsweredCall := []

namespace BuyerState

/-- `self.evidence.add`. -/
def add (state : BuyerState) (eventType : TraceEventType) (fields : List (String × Json)) :
    BuyerState :=
  { state with
    evidence := state.evidence.add eventType (.object fields)
    added := state.added + 1 }

def addUsage (state : BuyerState) (usage : ProviderUsage) : BuyerState :=
  { state with
    evidence := { state.evidence with usages := state.evidence.usages ++ [usage] } }

/-- `time.monotonic()`. -/
def read (state : BuyerState) : BuyerState :=
  { state with readings := state.readings + 1 }

def report (state : BuyerState) (merchantId : Uuid) (error : Option ReportedError)
    (abstention : Option ReportedAbstention) : ExecutorReport where
  merchantId := merchantId
  selection := state.selection
  checkout := state.checkout
  payment := state.payment
  abstention := abstention
  error := error

/-- What an answered call changes. -/
def apply (state : BuyerState) (change : Change) : BuyerState :=
  { state with
    selection := change.selection.or state.selection
    checkout := change.checkout.or state.checkout
    payment := change.payment.or state.payment }

end BuyerState

/-- An error with a text in front, so its detail is never blank. -/
def reportedError (detail : String) (stated : isBlank detail = false) : ReportedError where
  detail := detail
  detailStated := stated

theorem isBlank_unavailable (detail : String) :
    isBlank ("provider unavailable: " ++ detail) = false := by
  have member : 'p' ∈ ("provider unavailable: " ++ detail).toList := by
    rw [String.toList_append]
    exact List.mem_cons_self
  exact isBlank_of_visible member (by decide)

section Loop

variable (limits : AgentLimits) (granted : Nat) (around : Surroundings)

/-- A reading of the clock in a state. -/
def BuyerState.now (state : BuyerState) : ℚ :=
  around.clock state.readings

/-- `require`. -/
def isExhausted (state : BuyerState) : Bool :=
  decide (granted ≤ state.attempts)

/-- `ProviderRequestAllowance.respond`: the request is counted and reaches the provider. -/
def respond (attempt : Attempt) (state : BuyerState) :
    Except Escaped (Except ProviderError ProviderResponse) × BuyerState :=
  if isExhausted granted state then
    (.error (.allowanceExhausted granted state.attempts), state)
  else
    (.ok (around.provider state.requests.length),
      { state with
        attempts := state.attempts + 1
        requests := state.requests ++ [attempt] })

/-- `asyncio.wait_for`.  A call for which no time is left is cancelled before it starts. -/
def waitFor (attempt : Attempt) (state : BuyerState) :
    Except Escaped (Except ProviderError ProviderResponse) × BuyerState :=
  if min limits.providerTimeoutSeconds attempt.timeLeft ≤ 0 then (.ok (.error .timeout), state)
  else respond granted around attempt state

def seconds : Option ℚ → Json
  | none => .null
  | some value => .scalar (.number (.finite value))

/-- One attempt: the time left is read, the request is written down, and then it is made. -/
def attemptOnce (turn : Nat) (started : ℚ) (state : BuyerState) :
    Except Escaped (Except ProviderError (ProviderResponse × Nat)) × BuyerState :=
  let timeLeft := limits.deadlineSeconds - (state.now around - started)
  let state := state.read
  if isExhausted granted state then
    (.error (.allowanceExhausted granted state.attempts), state)
  else
    let attempt : Attempt :=
      { turn := turn, previous := state.previous, input := state.input, timeLeft := timeLeft }
    let written :=
      { state.add .modelRequest attempt.fields with
        attempted := state.attempted ++ [attempt] }
    let invocationStarted := written.now around
    match waitFor limits granted around attempt written.read with
    | (.error escaped, after) => (.error escaped, after)
    | (.ok (.error raised), after) => (.ok (.error raised), after)
    | (.ok (.ok response), after) =>
        let latency := (nearestWhole ((after.now around - invocationStarted) * 1000)).toNat
        (.ok (.ok (response, latency)), after.read)

def throttleFields (turn attempt : Nat) (raised : ProviderError) (retryAfter : Option ℚ) :
    List (String × Json) :=
  [("invocation_sequence", Payload.number turn), ("kind", Payload.text raised.kind),
    ("detail", Payload.text raised.detail), ("attempt", Payload.number attempt),
    ("retry_after_seconds", seconds retryAfter)]

/-- How long a throttled request waits. -/
def throttleWait (attempt : Nat) (retryAfter : Option ℚ) : ℚ :=
  min (retryAfter.getD (throttleBaseWaitSeconds * 2 ^ (attempt - 1))) throttleMaxWaitSeconds

/-- `_throttled_respond`, with so many attempts after the next one. -/
def throttledRespond (turn : Nat) (started : ℚ) (left : Nat) (state : BuyerState) :
    Except Escaped (Except ProviderError (ProviderResponse × Nat)) × BuyerState :=
  let attempt := throttleRetryLimit - left
  match attemptOnce limits granted around turn started state with
  | (.ok (.error (.throttled detail retryAfter)), after) =>
      let raised := ProviderError.throttled detail retryAfter
      let noted := after.add .providerError (throttleFields turn attempt raised retryAfter)
      match left with
      | 0 => (.ok (.error raised), noted)
      | next + 1 =>
          if limits.deadlineSeconds - (noted.now around - started) ≤
              throttleWait attempt retryAfter then
            (.ok (.error raised), noted.read)
          else throttledRespond turn started next noted.read
  | outcome => outcome

/-- How a turn ends: with a report, or with what the next request carries. -/
inductive TurnEnd
  | reported (report : ExecutorReport)
  | continues (input : List Json)

variable [ArgumentReading] [ItemReading] [NestingLimit]
variable (view : BuyerDiscoveryView) (mandateId merchantId : Uuid)

def reasonFields (reason : String) (turn : Nat) : List (String × Json) :=
  [("reason", Payload.text reason), ("turn", Payload.number turn)]

/-- An end without a purchase that the loop itself reports. -/
def aborted (reason : String) (turn : Nat) (error : ReportedError) (state : BuyerState) :
    Except Escaped TurnEnd × BuyerState :=
  let state := state.add .agentAbort (reasonFields reason turn)
  (.ok (.reported (state.report merchantId (some error) none)), state)

def callFields (call : ProviderToolCall) (name : String) (value : Json) : List (String × Json) :=
  [("call_id", Payload.text call.callId), ("name", Payload.text call.name), (name, value)]

/-- What the model is given for an answered call. -/
def outputOf (answered : AnsweredCall) : Json :=
  .object
    [("type", Payload.text "function_call_output"),
      ("call_id", Payload.text answered.call.callId),
      ("output", Payload.text (String.ofList (canonicalText answered.answer.result)))]

/-- The calls of one response, after those whose outputs are kept. -/
def runCalls (turn : Nat) :
    List ProviderToolCall → List Json → BuyerState → Except Escaped TurnEnd × BuyerState
  | [], outputs, state => (.ok (.continues outputs), state)
  | call :: rest, outputs, state =>
      let state := { state with calls := state.calls + 1 }
      if limits.maxToolCalls < state.calls then
        aborted merchantId "tool_call_budget_exceeded" turn
          (reportedError "agent tool-call budget exceeded" (by decide)) state
      else
        let surface := around.merchant state.answered.length
        let state := state.add .toolCall (callFields call "arguments" (Payload.text call.arguments))
        match tool view mandateId surface call with
        | .error raised => (.error (.uncaught call raised), state)
        | .ok answer =>
            let answered : AnsweredCall := { turn := turn, call := call, answer := answer }
            let eventType := if isErrorResult answer.result then .toolError else .toolResult
            let noted := (state.add eventType (callFields call "result" answer.result)).apply
              answer.change
            let noted := { noted with answered := state.answered ++ [answered] }
            match answer.change.abstention with
            | some abstention =>
                let noted :=
                  noted.add .agentFinal (reasonFields "structured_abstention" turn)
                (.ok (.reported (noted.report merchantId none (some abstention))), noted)
            | none => runCalls turn rest (outputs ++ [outputOf answered]) noted

def responseFields (turn : Nat) (response : ProviderResponse) : List (String × Json) :=
  [("invocation_sequence", Payload.number turn),
    ("response_id", Payload.optionalText response.responseId),
    ("model", Payload.optionalText response.model), ("status", Payload.text response.status),
    ("provider_status", Payload.optionalText response.providerStatus),
    ("text", Payload.optionalText response.text),
    ("refusal", Payload.optionalText response.refusal),
    ("request_id", Payload.optionalText response.requestId)]

/-- A response is written down, and a usage row that names its event. -/
def recordResponse (turn : Nat) (response : ProviderResponse) (latency : Nat)
    (state : BuyerState) : BuyerState :=
  let noted :=
    { state.add .modelResponse (responseFields turn response) with
      actualModel := response.model.or state.actualModel }
  noted.addUsage
    { invocationSequence := turn
      traceSequence := noted.evidence.events.length
      provider := limits.provider
      requestedModel := limits.requestedModel
      actualModel := response.model
      providerRequestId := response.requestId
      providerLatencyMs := some latency
      usage := response.usage }

def isOverdue (started : ℚ) (state : BuyerState) : Bool :=
  decide (limits.deadlineSeconds < state.now around - started)

/-- What a turn does with the response it got. -/
def useResponse (turn : Nat) (started : ℚ) (response : ProviderResponse) (state : BuyerState) :
    Except Escaped TurnEnd × BuyerState :=
  if response.responseId = none ∨ response.status ≠ "completed" then
    aborted merchantId "invalid_provider_response" turn
      (reportedError "provider returned an invalid response" (by decide)) state
  else
    let state := { state with previous := response.responseId }
    if isOverdue limits around started state then
      aborted merchantId "deadline_exceeded" turn
        (reportedError "agent deadline exceeded" (by decide)) state.read
    else
      match response.toolCalls with
      | [] =>
          if response.refusal.isSome then
            aborted merchantId "model_refusal" turn
              (reportedError "model refused mission" (by decide)) state.read
          else
            aborted merchantId "unstructured_end" turn
              (reportedError "model ended without structured abstention or payment" (by decide))
              state.read
      | calls => runCalls limits around view mandateId merchantId turn calls [] state.read

def errorFields (turn : Nat) (raised : ProviderError) : List (String × Json) :=
  [("invocation_sequence", Payload.number turn), ("kind", Payload.text raised.kind),
    ("detail", Payload.text raised.detail)]

/-- One turn. -/
def runTurn (turn : Nat) (started : ℚ) (state : BuyerState) :
    Except Escaped TurnEnd × BuyerState :=
  let state := { state with turns := state.turns + 1 }
  if isOverdue limits around started state then
    aborted merchantId "deadline_exceeded" turn
      (reportedError "agent deadline exceeded" (by decide)) state.read
  else
    match throttledRespond limits granted around turn started (throttleRetryLimit - 1) state.read with
    | (.error escaped, after) => (.error escaped, after)
    | (.ok (.error raised), after) =>
        aborted merchantId "provider_unavailable" turn
          (reportedError ("provider unavailable: " ++ raised.detail)
            (isBlank_unavailable raised.detail))
          (after.add .providerError (errorFields turn raised))
    | (.ok (.ok (response, latency)), after) =>
        useResponse limits around view mandateId merchantId turn started response
          (recordResponse limits turn response latency after)

/-- The turns that are left, from the next one on. -/
def runTurns (started : ℚ) : Nat → Nat → BuyerState → Except Escaped ExecutorReport × BuyerState
  | 0, _, state =>
      let state := state.add .agentAbort [("reason", Payload.text "turn_budget_exceeded")]
      (.ok (state.report merchantId
        (some (reportedError "agent turn budget exceeded" (by decide))) none), state)
  | left + 1, turn, state =>
      match runTurn limits granted around view mandateId merchantId turn started state with
      | (.error escaped, after) => (.error escaped, after)
      | (.ok (.reported report), after) => (.ok report, after)
      | (.ok (.continues input), after) =>
          runTurns started left (turn + 1) { after with input := input }

/-- `execute`, from the first input on. -/
def execute (missionInput : Json) : Except Escaped ExecutorReport × BuyerState :=
  let state : BuyerState := { input := [missionInput] }
  runTurns limits granted around view mandateId merchantId (state.now around)
    limits.maxModelTurns 1 state.read

end Loop
end AgentRank.Benchmark.Llm
