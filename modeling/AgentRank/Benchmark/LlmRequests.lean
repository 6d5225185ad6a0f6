import AgentRank.Benchmark.LlmTurns

/-!
# What a model buyer asks of the provider

The allowance counts every request that reaches the provider, and the evidence holds a request
for every attempt.  The two agree where every attempt was made with time left: an attempt that
was not is written down and never sent.
-/

namespace AgentRank.Benchmark.Llm

open Constraints Store

/-- The payloads of the requests that are written down. -/
def requestPayloads (events : List TraceEvent) : List Json :=
  (events.filter fun event => decide (event.eventType = .modelRequest)).map TraceEvent.payload

/-- The places of the responses among the events, counted from one. -/
def responsePlaces (events : List TraceEvent) : List Nat :=
  ((events.zipIdx 1).filter fun event => decide (event.1.eventType = .modelResponse)).map Prod.snd

/-- The payload that a request is written down with. -/
def Attempt.payload (attempt : Attempt) : Json :=
  safePayload (.object attempt.fields)

/-- The evidence holds one request for each that was sent, and no other. -/
def OneRequestEach (state : BuyerState) : Prop :=
  requestPayloads state.evidence.events = state.requests.map Attempt.payload

section Events

variable {events : List TraceEvent} {event : TraceEvent}

theorem requestPayloads_append :
    requestPayloads (events ++ [event]) =
      requestPayloads events ++ if event.eventType = .modelRequest then [event.payload] else [] := by
  rw [requestPayloads, List.filter_append, List.map_append, requestPayloads]
  split <;> simp [*]

theorem responsePlaces_append :
    responsePlaces (events ++ [event]) =
      responsePlaces events ++
        if event.eventType = .modelResponse then [events.length + 1] else [] := by
  rw [responsePlaces, List.zipIdx_append, List.filter_append, List.map_append, responsePlaces,
    Nat.add_comm events.length 1]
  split <;> simp [*]

end Events

/-! ## The accounts of one state -/

/-- An attempt that was made with time left. -/
def Attempt.isInTime (attempt : Attempt) : Bool :=
  decide (0 < attempt.timeLeft)

/-- What the loop keeps of its requests and its evidence. -/
structure Accounted (limits : AgentLimits) (granted : Nat) (state : BuyerState) : Prop where
  counted : state.attempts = state.requests.length
  withinGrant : state.attempts ≤ granted
  sentInTime : state.requests = state.attempted.filter Attempt.isInTime
  recorded : state.evidence.events.length = min state.added maxEvents
  written : state.added ≤ maxEvents →
    requestPayloads state.evidence.events = state.attempted.map Attempt.payload
  responses : state.added ≤ maxEvents →
    responsePlaces state.evidence.events = state.evidence.usages.map ProviderUsage.traceSequence
  callsCounted : state.answered.length ≤ state.calls
  callsBounded : state.answered.length ≤ limits.maxToolCalls

variable {limits : AgentLimits} {granted : Nat} {state : BuyerState}

/-- One more event is recorded while there is room, and its request or its response with it. -/
theorem Accounted.added (accounted : Accounted limits granted state) (eventType : TraceEventType)
    (fields : List (String × Json)) {attempted : List Attempt} {usages : List ProviderUsage}
    (requests : attempted.map Attempt.payload = state.attempted.map Attempt.payload ++
      if eventType = .modelRequest then [safePayload (.object fields)] else [])
    (places : state.evidence.events.length < maxEvents →
      usages.map ProviderUsage.traceSequence =
        state.evidence.usages.map ProviderUsage.traceSequence ++
          if eventType = .modelResponse then [state.evidence.events.length + 1] else []) :
    let events := (state.evidence.add eventType (.object fields)).events
    events.length = min (state.added + 1) maxEvents ∧
      (state.added + 1 ≤ maxEvents → requestPayloads events = attempted.map Attempt.payload) ∧
      (state.added + 1 ≤ maxEvents →
        responsePlaces events = usages.map ProviderUsage.traceSequence) := by
  intro events
  have recorded := accounted.recorded
  by_cases full : maxEvents ≤ state.evidence.events.length
  · have same : events = state.evidence.events :=
      congrArg AgentExecutionEvidence.events (AgentExecutionEvidence.add_of_full full)
    rw [same]
    exact ⟨by omega, fun within => by omega, fun within => by omega⟩
  · have appended : events = state.evidence.events ++
        [{ eventType := eventType, payload := safePayload (.object fields) }] :=
      AgentExecutionEvidence.add_of_room (by omega)
    rw [appended, List.length_append, List.length_singleton]
    refine ⟨by omega, fun within => ?_, fun within => ?_⟩
    · rw [requestPayloads_append, accounted.written (by omega), requests]
    · rw [responsePlaces_append, accounted.responses (by omega), places (by omega)]

/-- An event that is no request and no response leaves the accounts as they are. -/
theorem Accounted.note (eventType : TraceEventType) (fields : List (String × Json))
    (accounted : Accounted limits granted state) (notRequest : eventType ≠ .modelRequest)
    (notResponse : eventType ≠ .modelResponse) :
    Accounted limits granted (state.add eventType fields) := by
  have usages : (state.add eventType fields).evidence.usages = state.evidence.usages :=
    AgentExecutionEvidence.usages_add
  obtain ⟨recorded, written, responses⟩ :=
    @Accounted.added _ _ _ accounted eventType fields state.attempted state.evidence.usages
      (by simp [notRequest]) (fun _ => by simp [notResponse])
  exact
    { accounted with
      recorded := recorded
      written := written
      responses := usages ▸ responses }

/-- A request that is written down.  Whether it is sent is not yet said. -/
theorem Accounted.attempted (accounted : Accounted limits granted state) (attempt : Attempt) :
    (state.attempt attempt).evidence.events.length =
        min (state.attempt attempt).added maxEvents ∧
      ((state.attempt attempt).added ≤ maxEvents →
        requestPayloads (state.attempt attempt).evidence.events =
          (state.attempted ++ [attempt]).map Attempt.payload) ∧
      ((state.attempt attempt).added ≤ maxEvents →
        responsePlaces (state.attempt attempt).evidence.events =
          (state.attempt attempt).evidence.usages.map ProviderUsage.traceSequence) := by
  have usages : (state.attempt attempt).evidence.usages = state.evidence.usages :=
    AgentExecutionEvidence.usages_add
  rw [usages]
  exact accounted.added .modelRequest attempt.fields (by simp [Attempt.payload]) fun _ => by simp

/-- A response and its usage row are written down together. -/
theorem Accounted.response {turn : Nat} {response : ProviderResponse} {latency : Nat}
    (accounted : Accounted limits granted state) :
    Accounted limits granted (recordResponse limits turn response latency state) := by
  have usages : state.evidence.events.length < maxEvents →
      (recordResponse limits turn response latency state).evidence.usages.map
          ProviderUsage.traceSequence =
        state.evidence.usages.map ProviderUsage.traceSequence ++
          if TraceEventType.modelResponse = .modelResponse then
            [state.evidence.events.length + 1] else [] := by
    intro room
    have place : ((state.evidence.add .modelResponse
        (.object (responseFields turn response))).events).length =
          state.evidence.events.length + 1 := by
      rw [AgentExecutionEvidence.add_of_room room, List.length_append, List.length_singleton]
    simp only [recordResponse, BuyerState.addUsage, BuyerState.add,
      AgentExecutionEvidence.usages_add, List.map_append, List.map_cons, List.map_nil, place, if_pos]
  obtain ⟨recorded, written, responses⟩ :=
    @Accounted.added _ _ _ accounted .modelResponse (responseFields turn response) state.attempted
      _ (by simp) usages
  exact
    { accounted with
      recorded := recorded
      written := written
      responses := responses }

/-- A call and its result are two events, neither a request nor a response. -/
theorem Accounted.answer {answered : AnsweredCall} (accounted : Accounted limits granted state)
    (withinBudget : state.calls + 1 ≤ limits.maxToolCalls) :
    Accounted limits granted (state.answer answered) := by
  have called : Accounted limits granted { state with calls := state.calls + 1 } :=
    { accounted with callsCounted := Nat.le_succ_of_le accounted.callsCounted }
  have written := called.note .toolCall
    (callFields answered.call "arguments" (Payload.text answered.call.arguments))
    (by decide) (by decide)
  have noted := written.note (if isErrorResult answered.answer.result then .toolError else .toolResult)
    (callFields answered.call "result" answered.answer.result)
    (by split <;> decide) (by split <;> decide)
  have counted := accounted.callsCounted
  exact
    { noted with
      callsCounted := by
        change (state.answered ++ [answered]).length ≤ state.calls + 1
        rw [List.length_append, List.length_singleton]
        omega
      callsBounded := by
        change (state.answered ++ [answered]).length ≤ limits.maxToolCalls
        rw [List.length_append, List.length_singleton]
        omega }

/-- Every move keeps the accounts. -/
theorem accounted_of_move [ArgumentReading] [ItemReading] [NestingLimit] {around : Surroundings}
    {view : BuyerDiscoveryView} {mandateId : Uuid} (before after : BuyerState)
    (move : Move limits granted around view mandateId before after)
    (accounted : Accounted limits granted before) : Accounted limits granted after := by
  cases move with
  | read => exact { accounted with }
  | turn => exact { accounted with }
  | note eventType fields notRequest notResponse => exact accounted.note _ _ notRequest notResponse
  | unsent attempt room late =>
      obtain ⟨recorded, written, responses⟩ := accounted.attempted attempt
      have notInTime : attempt.isInTime = false := decide_eq_false (not_lt.mpr late)
      exact
        { accounted with
          sentInTime := by
            change before.requests = (before.attempted ++ [attempt]).filter Attempt.isInTime
            rw [List.filter_append, List.filter_cons, notInTime, accounted.sentInTime]
            simp
          recorded := recorded
          written := written
          responses := responses }
  | sent attempt room inTime =>
      obtain ⟨recorded, written, responses⟩ := accounted.attempted attempt
      have isInTime : attempt.isInTime = true := decide_eq_true inTime
      exact
        { counted := by
            change before.attempts + 1 = (before.requests ++ [attempt]).length
            rw [List.length_append, List.length_singleton, accounted.counted]
          withinGrant := room
          sentInTime := by
            change before.requests ++ [attempt] =
              (before.attempted ++ [attempt]).filter Attempt.isInTime
            rw [List.filter_append, List.filter_cons, isInTime, accounted.sentInTime]
            simp
          recorded := recorded
          written := written
          responses := responses
          callsCounted := accounted.callsCounted
          callsBounded := accounted.callsBounded }
  | response turn response latency => exact accounted.response
  | previous => exact { accounted with }
  | input => exact { accounted with }
  | call =>
      exact { accounted with callsCounted := Nat.le_succ_of_le accounted.callsCounted }
  | answer answered withinBudget => exact accounted.answer withinBudget

theorem accounted_initial (input : List Json) : Accounted limits granted { input := input } where
  counted := rfl
  withinGrant := Nat.zero_le _
  sentInTime := rfl
  recorded := rfl
  written _ := rfl
  responses _ := rfl
  callsCounted := Nat.le_refl _
  callsBounded := Nat.zero_le _

section Pace

/-- Every turn adds no more attempts than the limit. -/
theorem Turned.pace {turn : Nat} {before after : BuyerState} (turned : Turned turn before after)
    (paced : before.attempted.length ≤ throttleRetryLimit * before.turns) :
    after.attempted.length ≤ throttleRetryLimit * after.turns := by
  obtain ⟨fresh, freshEq, bound, _⟩ := turned.attempted
  rw [freshEq, List.length_append, turned.turns, Nat.mul_succ]
  exact Nat.add_le_add paced bound

variable [ArgumentReading] [ItemReading] [NestingLimit]
variable {around : Surroundings} {view : BuyerDiscoveryView} {mandateId merchantId : Uuid}

theorem pace_runTurns {started : ℚ} {left turn : Nat}
    (paced : state.attempted.length ≤ throttleRetryLimit * state.turns)
    (remaining : state.turns + left ≤ limits.maxModelTurns) :
    let after := (runTurns limits granted around view mandateId merchantId started left turn state).2
    after.turns ≤ limits.maxModelTurns ∧
      after.attempted.length ≤ throttleRetryLimit * after.turns := by
  induction left generalizing turn state with
  | zero => exact ⟨remaining, paced⟩
  | succ left ih =>
      have turned : Turned turn state
          (runTurn limits granted around view mandateId merchantId turn started state).2 :=
        turned_runTurn state
      have pacedNext := turned.pace paced
      have turns := turned.turns
      unfold runTurns
      split
      · rename_i outcome
        rw [outcome] at pacedNext turns
        exact ⟨by dsimp only at turns ⊢; omega, pacedNext⟩
      · rename_i outcome
        rw [outcome] at pacedNext turns
        exact ⟨by dsimp only at turns ⊢; omega, pacedNext⟩
      · rename_i input after outcome
        rw [outcome] at pacedNext turns
        have remainingNext : ({ after with input := input } : BuyerState).turns + left ≤
            limits.maxModelTurns := by
          dsimp only at turns ⊢
          omega
        exact ih pacedNext remainingNext

end Pace

/-- The requests and the evidence agree on what was sent exactly where every request was made
with time left. -/
theorem oneRequestEach_iff (accounted : Accounted limits granted state)
    (within : state.added ≤ maxEvents) :
    OneRequestEach state ↔ ∀ attempt ∈ state.attempted, 0 < attempt.timeLeft := by
  rw [OneRequestEach, accounted.written within, accounted.sentInTime]
  constructor
  · intro same attempt member
    have lengths := congrArg List.length same
    rw [List.length_map, List.length_map] at lengths
    have all := List.length_filter_eq_length_iff.mp lengths.symm
    exact of_decide_eq_true (all attempt member)
  · intro inTime
    have all : ∀ attempt ∈ state.attempted, attempt.isInTime = true := fun attempt member =>
      decide_eq_true (inTime attempt member)
    rw [List.filter_eq_self.mpr all]

section Executions

variable [ArgumentReading] [ItemReading] [NestingLimit]

/-- What an execution asks of the provider, and what its evidence holds of it. -/
theorem execute_accounts (limits : AgentLimits) (granted : Nat) (around : Surroundings)
    (view : BuyerDiscoveryView) (mandateId merchantId : Uuid) (missionInput : Json) :
    let final := (execute limits granted around view mandateId merchantId missionInput).2
    final.requests.length = final.attempts ∧ final.attempts ≤ granted ∧
      final.attempts ≤ throttleRetryLimit * limits.maxModelTurns ∧
      final.turns ≤ limits.maxModelTurns ∧ final.answered.length ≤ limits.maxToolCalls ∧
      (final.added ≤ maxEvents →
        responsePlaces final.evidence.events =
            final.evidence.usages.map ProviderUsage.traceSequence ∧
          (OneRequestEach final ↔ ∀ attempt ∈ final.attempted, 0 < attempt.timeLeft)) := by
  intro final
  have reached := reaches_execute limits granted around view mandateId merchantId missionInput
  have accounted : Accounted limits granted final :=
    reached.keeps limits granted around view mandateId accounted_of_move
      (accounted_initial [missionInput])
  obtain ⟨turns, attempted⟩ : final.turns ≤ limits.maxModelTurns ∧
      final.attempted.length ≤ throttleRetryLimit * final.turns :=
    pace_runTurns (Nat.zero_le _) (Nat.le_of_eq (Nat.zero_add _))
  have sent : final.requests.length ≤ final.attempted.length := by
    rw [accounted.sentInTime]
    exact List.length_filter_le _ _
  refine ⟨accounted.counted.symm, accounted.withinGrant, ?_, turns, accounted.callsBounded, ?_⟩
  · calc
      final.attempts = final.requests.length := accounted.counted
      _ ≤ throttleRetryLimit * final.turns := Nat.le_trans sent attempted
      _ ≤ throttleRetryLimit * limits.maxModelTurns := Nat.mul_le_mul_left _ turns
  · intro within
    exact ⟨accounted.responses within, oneRequestEach_iff accounted within⟩

end Executions

/-- A merchant that refuses everything. -/
def refusingSurface : BuyerSurface where
  searchProducts _ := .refused "NotFoundError"
  getProduct _ := .refused "NotFoundError"
  createCheckout _ := .refused "NotFoundError"
  getCheckout _ := .refused "NotFoundError"
  prepareCheckout _ := .refused "NotFoundError"
  completeCheckout _ _ := .refused "NotFoundError"

def oneTurn : AgentLimits where
  provider := "openai-responses"
  requestedModel := "gpt-5.6-terra"
  maxModelTurns := 1
  maxToolCalls := 24
  deadlineSeconds := 120
  providerTimeoutSeconds := 45
  turnsPositive := Nat.one_pos
  callsPositive := by decide
  deadlinePositive := by norm_num
  timeoutPositive := by norm_num

/-- The deadline passes between the check of the turn and the reading of the time left. -/
def lateRequest : Surroundings where
  clock reading := if reading < 2 then 0 else 120
  provider _ := .error .timeout
  merchant _ := refusingSurface

/-- Readings that no sample depends on. -/
@[reducible]
def noArguments : ArgumentReading where
  search _ := none
  str _ := ""

@[reducible]
def noItems : ItemReading where
  item _ := none

@[reducible]
def noLimit : NestingLimit where
  exceeded _ := false

/-- The evidence holds a request, well within its bound, and nothing was sent. -/
theorem late_request_recorded :
    let _ := noArguments
    let _ := noItems
    let _ := noLimit
    let final := (execute oneTurn 6 lateRequest { kind := .storefront } 1 2 .null).2
    final.added ≤ maxEvents ∧ final.attempts = 0 ∧ ¬OneRequestEach final := by
  intro _ _ _ final
  have counts : final.added ≤ maxEvents ∧ final.attempts = 0 ∧ final.requests.length = 0 ∧
      (requestPayloads final.evidence.events).length = 1 := by
    decide +kernel
  obtain ⟨within, attempts, requests, written⟩ := counts
  refine ⟨within, attempts, fun same => ?_⟩
  rw [same, List.length_map, requests] at written
  exact absurd written (by decide)

end AgentRank.Benchmark.Llm
