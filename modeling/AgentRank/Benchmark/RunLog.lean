import AgentRank.Benchmark.LlmTurns

/-!
# What a run of a model buyer records

Evidence has room for so many events, and what comes later is dropped.  The log of a run is the
evidence as it would be had every event found room.  Each function of the loop is described by
what it adds to the log, to the usage rows and to the requests that reached the provider.
-/

namespace AgentRank.Benchmark.Llm

open Constraints Store

/-- The events that end the loop. -/
def TraceEventType.endsLoop : TraceEventType → Bool
  | agentFinal | agentAbort => true
  | _ => false

/-- An event as it is recorded. -/
def recordOf (eventType : TraceEventType) (fields : List (String × Json)) : TraceEvent where
  eventType := eventType
  payload := safePayload (.object fields)

/-- What became of a request. -/
abbrev Outcome := Except ProviderError ProviderResponse

/-- What became of every request that reached the provider. -/
def outcomes (around : Surroundings) (state : BuyerState) : List Outcome :=
  (List.range state.requests.length).map around.provider

def responsesOf (outcomes : List Outcome) : List ProviderResponse :=
  outcomes.filterMap Except.toOption

/-- A request that the provider refused for now. -/
def throttle? : Outcome → Option ProviderError
  | .error (.throttled detail retryAfter) => some (.throttled detail retryAfter)
  | _ => none

def ProviderError.isThrottle : ProviderError → Bool
  | throttled _ _ => true
  | _ => false

def throttlesOf (outcomes : List Outcome) : List ProviderError :=
  outcomes.filterMap throttle?

/-- How an outcome failed, if it did. -/
def failureOf {α : Type} : Except ProviderError α → Option ProviderError
  | .error raised => some raised
  | .ok _ => none

/-- How the last attempt failed, if it did.  An attempt without time left times out unsent. -/
def lastFailure (around : Surroundings) (state : BuyerState) : Option ProviderError :=
  match state.attempted.getLast? with
  | none => none
  | some attempt =>
      if attempt.timeLeft ≤ 0 then some .timeout
      else failureOf (around.provider (state.requests.length - 1))

variable {outcome : Except ProviderError (ProviderResponse × Nat)}

section Attempts

variable {limits : AgentLimits} {granted : Nat} {around : Surroundings} {turn : Nat} {started : ℚ}

/-- What an attempt comes to: it is written down, and where time is left it is also sent. -/
theorem attemptOnce_eq_ok {state after : BuyerState}
    (asked : attemptOnce limits granted around turn started state = (.ok outcome, after)) :
    ∃ attempt readings,
      attempt.timeLeft ≤ 0 ∧ outcome = .error .timeout ∧
          after = { state.attempt attempt with readings := readings } ∨
        0 < attempt.timeLeft ∧
          outcome.map Prod.fst = around.provider state.requests.length ∧
            after = { (state.attempt attempt).send attempt with readings := readings } := by
  unfold attemptOnce at asked
  dsimp only at asked
  split at asked
  · cases asked
  · rename_i notExhausted
    generalize Attempt.mk turn state.read.previous state.read.input
      (limits.deadlineSeconds - (state.now around - started)) = attempt at asked
    refine ⟨attempt, after.readings, ?_⟩
    rw [waitFor] at asked
    by_cases late : min limits.providerTimeoutSeconds attempt.timeLeft ≤ 0
    · rw [if_pos late] at asked
      cases asked
      have isLate : attempt.timeLeft ≤ 0 := by
        rcases min_le_iff.mp late with timeout | left
        · exact absurd timeout (not_le.mpr limits.timeoutPositive)
        · exact left
      exact Or.inl ⟨isLate, rfl, rfl⟩
    · have inTime : 0 < attempt.timeLeft := lt_of_lt_of_le (not_le.mp late) (min_le_right _ _)
      rw [if_neg late, respond] at asked
      split at asked
      · cases asked
      · rename_i escaped after sent
        split at sent
        · cases sent
        · obtain ⟨provided, rfl⟩ := Prod.mk.inj sent
          cases asked
          exact Or.inr ⟨inTime, (Except.ok.inj provided).symm, rfl⟩
      · rename_i response after sent
        split at sent
        · cases sent
        · obtain ⟨provided, rfl⟩ := Prod.mk.inj sent
          cases asked
          exact Or.inr ⟨inTime, (Except.ok.inj provided).symm, rfl⟩

end Attempts

/-! ## What a state has recorded -/

/-- A usage row that was made from a response, as the model that was asked for. -/
structure RowOf (limits : AgentLimits) (row : ProviderUsage) (response : ProviderResponse) :
    Prop where
  invocation : 1 ≤ row.invocationSequence
  provider : row.provider = limits.provider
  requestedModel : row.requestedModel = limits.requestedModel
  actualModel : row.actualModel = response.model
  requestId : row.providerRequestId = response.requestId
  usage : row.usage = response.usage

/-- A row names the event of the response it was made from. -/
def NamesEvent (log : List TraceEvent) (row : ProviderUsage) (response : ProviderResponse) :
    Prop :=
  1 ≤ row.traceSequence ∧
    log[row.traceSequence - 1]? =
      some (recordOf .modelResponse (responseFields row.invocationSequence response))

/-- The payload of an event that notes a throttle inside a turn. -/
def NotesThrottle (payload : Json) (raised : ProviderError) : Prop :=
  ∃ detail retryAfter turn attempt, raised = .throttled detail retryAfter ∧
    payload = safePayload (.object (throttleFields turn attempt raised retryAfter))

/-- The payloads of the failures that a log states. -/
def errorPayloads (log : List TraceEvent) : List Json :=
  (log.filter fun event => decide (event.eventType = .providerError)).map TraceEvent.payload

/-- A log is what a state has recorded of a loop that goes on.  The responses that wait for their
usage row are listed. -/
structure Logs (limits : AgentLimits) (around : Surroundings) (waiting : List ProviderResponse)
    (log : List TraceEvent) (state : BuyerState) : Prop where
  counted : state.added = log.length
  kept : state.evidence.events = log.take maxEvents
  goesOn : ∀ event ∈ log, event.eventType.endsLoop = false
  passed : ∀ event ∈ log, ∃ value, event.payload = safePayload value
  rows : ∃ recorded, recorded ++ waiting = responsesOf (outcomes around state) ∧
    List.Forall₂ (RowOf limits) state.evidence.usages recorded ∧
      (log.length ≤ maxEvents → List.Forall₂ (NamesEvent log) state.evidence.usages recorded)

/-- A log tells every throttle, and the last attempt failed as stated. -/
structure Tracks (limits : AgentLimits) (around : Surroundings) (waiting : List ProviderResponse)
    (failure : Option ProviderError) (log : List TraceEvent) (state : BuyerState) : Prop
    extends Logs limits around waiting log state where
  errors : List.Forall₂ NotesThrottle (errorPayloads log) (throttlesOf (outcomes around state))
  last : lastFailure around state = failure

/-- Two lists that agree place by place go on to agree. -/
theorem forall₂_append {α β : Type} {agree : α → β → Prop} {first more : List α}
    {second others : List β} (former : List.Forall₂ agree first second)
    (later : List.Forall₂ agree more others) :
    List.Forall₂ agree (first ++ more) (second ++ others) :=
  List.rel_append former later

theorem notesThrottle_throttleFields (turn place : Nat) (detail : String) (retryAfter : Option ℚ) :
    NotesThrottle
      (recordOf .providerError
        (throttleFields turn place (.throttled detail retryAfter) retryAfter)).payload
      (.throttled detail retryAfter) := by
  refine ⟨detail, retryAfter, turn, place, rfl, ?_⟩
  rw [recordOf]

variable {fields : List (String × Json)} {eventType : TraceEventType}

section Log

variable {log : List TraceEvent} {event : TraceEvent}

theorem passed_append (passed : ∀ event ∈ log, ∃ value, event.payload = safePayload value) :
    ∀ event ∈ log ++ [recordOf eventType fields], ∃ value, event.payload = safePayload value := by
  refine List.forall_mem_append.mpr ⟨passed, List.forall_mem_singleton.mpr ⟨.object fields, ?_⟩⟩
  rw [recordOf]

theorem errorPayloads_append :
    errorPayloads (log ++ [event]) =
      errorPayloads log ++ if event.eventType = .providerError then [event.payload] else [] := by
  rw [errorPayloads, List.filter_append, List.map_append, errorPayloads]
  split <;> simp [*]

/-- A row goes on naming its event as the log grows. -/
theorem NamesEvent.append {row : ProviderUsage} {response : ProviderResponse}
    (names : NamesEvent log row response) (more : List TraceEvent) :
    NamesEvent (log ++ more) row response := by
  obtain ⟨stated, held⟩ := names
  obtain ⟨within, _⟩ := List.getElem?_eq_some_iff.mp held
  refine ⟨stated, ?_⟩
  rw [List.getElem?_append_left within, held]

theorem forall₂_named_append (event : TraceEvent) {rows : List ProviderUsage} {recorded : List ProviderResponse}
    (named : log.length ≤ maxEvents → List.Forall₂ (NamesEvent log) rows recorded)
    (within : (log ++ [event]).length ≤ maxEvents) :
    List.Forall₂ (NamesEvent (log ++ [event])) rows recorded := by
  rw [List.length_append] at within
  exact (named (Nat.le_of_add_right_le within)).imp fun _ _ names => names.append [event]

end Log

/-- What the provider did is told by the requests. -/
theorem outcomes_of_requests {around : Surroundings} {before after : BuyerState}
    (requests : after.requests = before.requests) : outcomes around after = outcomes around before := by
  rw [outcomes, outcomes, requests]

@[simp]
theorem outcomes_add {around : Surroundings} {state : BuyerState} :
    outcomes around (state.add eventType fields) = outcomes around state :=
  outcomes_of_requests rfl

section Steps

variable {limits : AgentLimits} {around : Surroundings} {waiting : List ProviderResponse}
  {failure : Option ProviderError} {log : List TraceEvent} {state : BuyerState}

/-- The evidence of a state whose log has one event more. -/
theorem Logs.events_add (logs : Logs limits around waiting log state) :
    (state.add eventType fields).evidence.events =
      (log ++ [recordOf eventType fields]).take maxEvents := by
  have kept := logs.kept
  by_cases full : maxEvents ≤ log.length
  · have length : state.evidence.events.length = maxEvents := by
      rw [kept, List.length_take]
      omega
    have same : (state.add eventType fields).evidence = state.evidence :=
      AgentExecutionEvidence.add_of_full (Nat.le_of_eq length.symm)
    rw [same, kept, List.take_append_of_le_length full]
  · have all : state.evidence.events = log := by
      rw [kept, List.take_of_length_le (by omega)]
    have appended : (state.add eventType fields).evidence.events =
        state.evidence.events ++ [recordOf eventType fields] :=
      AgentExecutionEvidence.add_of_room (by rw [all]; omega)
    rw [appended, all, List.take_of_length_le]
    rw [List.length_append, List.length_singleton]
    omega

/-- What is recorded reads these parts of a state alone. -/
theorem Tracks.same {after : BuyerState} (tracks : Tracks limits around waiting failure log state)
    (added : after.added = state.added) (evidence : after.evidence = state.evidence)
    (requests : after.requests = state.requests) (attempted : after.attempted = state.attempted) :
    Tracks limits around waiting failure log after := by
  have sameOutcomes : outcomes around after = outcomes around state :=
    outcomes_of_requests requests
  exact
    { counted := added.trans tracks.counted
      kept := by rw [evidence, tracks.kept]
      goesOn := tracks.goesOn
      passed := tracks.passed
      rows := by rw [evidence, sameOutcomes]; exact tracks.rows
      errors := by rw [sameOutcomes]; exact tracks.errors
      last := by
        rw [← tracks.last, lastFailure, lastFailure, requests, attempted] }

theorem Tracks.read (tracks : Tracks limits around waiting failure log state) :
    Tracks limits around waiting failure log state.read :=
  tracks.same rfl rfl rfl rfl

/-- An event that does not end the loop. -/
theorem Logs.note (logs : Logs limits around waiting log state) (eventType : TraceEventType)
    (fields : List (String × Json)) (goesOn : eventType.endsLoop = false) :
    Logs limits around waiting (log ++ [recordOf eventType fields])
      (state.add eventType fields) where
  counted := by
    rw [List.length_append, List.length_singleton, ← logs.counted]
    rfl
  kept := logs.events_add
  goesOn := List.forall_mem_append.mpr ⟨logs.goesOn, List.forall_mem_singleton.mpr goesOn⟩
  passed := passed_append logs.passed
  rows := by
    obtain ⟨recorded, all, made, named⟩ := logs.rows
    have usages : (state.add eventType fields).evidence.usages = state.evidence.usages :=
      AgentExecutionEvidence.usages_add
    rw [usages, outcomes_add]
    exact ⟨recorded, all, made, forall₂_named_append _ named⟩

/-- An event that is no failure and does not end the loop. -/
theorem Tracks.note (fields : List (String × Json))
    (tracks : Tracks limits around waiting failure log state)
    (goesOn : eventType.endsLoop = false) (noError : eventType ≠ .providerError) :
    Tracks limits around waiting failure (log ++ [recordOf eventType fields])
      (state.add eventType fields) :=
  { tracks.toLogs.note eventType fields goesOn with
    errors := by
      have other : (recordOf eventType fields).eventType ≠ .providerError := noError
      rw [errorPayloads_append, if_neg other, List.append_nil, outcomes_add]
      exact tracks.errors
    last := tracks.last }

/-! ## Attempts -/

theorem outcomes_send (attempt : Attempt) :
    outcomes around ((state.attempt attempt).send attempt) =
      outcomes around state ++ [around.provider state.requests.length] := by
  have sent : ((state.attempt attempt).send attempt).requests.length =
      state.requests.length + 1 := by
    change (state.requests ++ [attempt]).length = _
    rw [List.length_append, List.length_singleton]
  rw [outcomes, sent, List.range_succ, List.map_append, List.map_singleton, outcomes]

variable {attempt : Attempt}

theorem lastFailure_attempt (late : attempt.timeLeft ≤ 0) :
    lastFailure around (state.attempt attempt) = some .timeout := by
  have last : (state.attempt attempt).attempted.getLast? = some attempt :=
    List.getLast?_concat
  rw [lastFailure, last]
  exact if_pos late

theorem lastFailure_send (inTime : 0 < attempt.timeLeft) :
    lastFailure around ((state.attempt attempt).send attempt) =
      failureOf (around.provider state.requests.length) := by
  have last : ((state.attempt attempt).send attempt).attempted.getLast? = some attempt :=
    List.getLast?_concat
  have place : ((state.attempt attempt).send attempt).requests.length - 1 =
      state.requests.length := by
    change (state.requests ++ [attempt]).length - 1 = _
    rw [List.length_append, List.length_singleton, Nat.add_sub_cancel]
  rw [lastFailure, last, place]
  exact if_neg (not_le.mpr inTime)

/-- A request that is written down. -/
theorem Tracks.request (tracks : Tracks limits around waiting failure log state)
    (attempt : Attempt) :
    Tracks limits around waiting failure (log ++ [recordOf .modelRequest attempt.fields])
      (state.add .modelRequest attempt.fields) :=
  tracks.note attempt.fields rfl (by decide)

/-- A request for which no time was left is written down and not sent. -/
theorem Tracks.late (tracks : Tracks limits around waiting failure log state)
    (late : attempt.timeLeft ≤ 0) :
    Tracks limits around waiting (some .timeout)
      (log ++ [recordOf .modelRequest attempt.fields]) (state.attempt attempt) :=
  { tracks.request attempt with
    last := lastFailure_attempt late }

/-- A request that is sent.  Its response waits for the usage row, if it has one. -/
theorem Logs.sent (logs : Logs limits around [] log state) (attempt : Attempt) :
    Logs limits around (around.provider state.requests.length).toOption.toList
      (log ++ [recordOf .modelRequest attempt.fields])
      ((state.attempt attempt).send attempt) := by
  have noted := logs.note .modelRequest attempt.fields rfl
  exact
    { noted with
      rows := by
        obtain ⟨recorded, all, made, named⟩ := noted.rows
        rw [outcomes_add, List.append_nil] at all
        refine ⟨recorded, ?_, made, named⟩
        rw [outcomes_send, responsesOf, List.filterMap_append, ← responsesOf, ← all]
        cases around.provider state.requests.length <;> rfl }

/-- A request that is answered, or that fails for good. -/
theorem Tracks.sent (tracks : Tracks limits around [] failure log state)
    (inTime : 0 < attempt.timeLeft)
    (noThrottle : throttle? (around.provider state.requests.length) = none) :
    Tracks limits around (around.provider state.requests.length).toOption.toList
      (failureOf (around.provider state.requests.length))
      (log ++ [recordOf .modelRequest attempt.fields])
      ((state.attempt attempt).send attempt) :=
  { tracks.toLogs.sent attempt with
    errors := by
      have errors := (tracks.request attempt).errors
      rw [outcomes_add] at errors
      rw [outcomes_send, throttlesOf, List.filterMap_append, ← throttlesOf, List.filterMap_cons,
        noThrottle, List.filterMap_nil, List.append_nil]
      exact errors
    last := lastFailure_send inTime }

/-- A request that is throttled, and the event that notes it. -/
theorem Tracks.throttled {detail : String} {retryAfter : Option ℚ}
    (tracks : Tracks limits around [] failure log state) (inTime : 0 < attempt.timeLeft)
    (outcome : around.provider state.requests.length = .error (.throttled detail retryAfter))
    (turn place : Nat) :
    Tracks limits around [] (some (.throttled detail retryAfter))
      (log ++ [recordOf .modelRequest attempt.fields] ++
        [recordOf .providerError
          (throttleFields turn place (.throttled detail retryAfter) retryAfter)])
      (((state.attempt attempt).send attempt).add .providerError
        (throttleFields turn place (.throttled detail retryAfter) retryAfter)) := by
  have sent := tracks.toLogs.sent attempt
  rw [outcome] at sent
  exact
    { sent.note .providerError
        (throttleFields turn place (.throttled detail retryAfter) retryAfter) rfl with
      errors := by
        have isError : (recordOf .providerError (throttleFields turn place
            (.throttled detail retryAfter) retryAfter)).eventType = .providerError := rfl
        have oneMore : throttlesOf (outcomes around state ++
            [.error (.throttled detail retryAfter)]) =
              throttlesOf (outcomes around state) ++ [.throttled detail retryAfter] := by
          rw [throttlesOf, List.filterMap_append, ← throttlesOf]
          rfl
        have earlier := (tracks.request attempt).errors
        rw [outcomes_add] at earlier
        rw [errorPayloads_append, if_pos isError, outcomes_add, outcomes_send, outcome, oneMore]
        exact forall₂_append earlier (.cons (notesThrottle_throttleFields _ _ _ _) .nil)
      last := (lastFailure_send inTime).trans (congrArg failureOf outcome) }

/-- A response is recorded, and the row that waits for it. -/
theorem Tracks.response {turn latency : Nat} {response : ProviderResponse}
    (tracks : Tracks limits around [response] failure log state) (stated : 1 ≤ turn) :
    Tracks limits around [] failure
      (log ++ [recordOf .modelResponse (responseFields turn response)])
      (recordResponse limits turn response latency state) := by
  have noted := tracks.note (responseFields turn response)
    (show TraceEventType.modelResponse.endsLoop = false from rfl) (by decide)
  have sameEvents : (recordResponse limits turn response latency state).evidence.events =
      (state.add .modelResponse (responseFields turn response)).evidence.events := rfl
  exact
    { counted := noted.counted
      kept := noted.kept
      goesOn := noted.goesOn
      passed := noted.passed
      rows := by
        obtain ⟨recorded, all, made, named⟩ := noted.rows
        refine ⟨recorded ++ [response], ?_, ?_, ?_⟩
        · rw [List.append_nil]
          exact all
        · apply forall₂_append made
          exact .cons ⟨stated, rfl, rfl, rfl, rfl, rfl⟩ .nil
        · intro within
          apply forall₂_append (named within)
          refine .cons ?_ .nil
          have room : (log ++ [recordOf .modelResponse (responseFields turn response)]).take
              maxEvents = log ++ [recordOf .modelResponse (responseFields turn response)] :=
            List.take_of_length_le within
          have place : (recordResponse limits turn response latency state).evidence.events.length =
              log.length + 1 := by
            rw [sameEvents, noted.kept, room, List.length_append, List.length_singleton]
          refine ⟨?_, ?_⟩
          · change 1 ≤ (recordResponse limits turn response latency state).evidence.events.length
            omega
          · change (log ++ [_])[(recordResponse limits turn response latency
              state).evidence.events.length - 1]? = _
            rw [place, Nat.add_sub_cancel, List.getElem?_concat_length]
      errors := noted.errors
      last := noted.last }

/-- A call and its result are two events. -/
theorem Tracks.answer (tracks : Tracks limits around waiting failure log state)
    (answered : AnsweredCall) :
    ∃ later, Tracks limits around waiting failure later (state.answer answered) := by
  have called := tracks.note
    (callFields answered.call "arguments" (Payload.text answered.call.arguments))
    (show TraceEventType.toolCall.endsLoop = false from rfl) (by decide)
  have resulted := called.note (callFields answered.call "result" answered.answer.result)
    (show (if isErrorResult answered.answer.result then TraceEventType.toolError
      else .toolResult).endsLoop = false by split <;> rfl) (by split <;> decide)
  exact ⟨_, resulted.same rfl rfl rfl rfl⟩

end Steps

section Asking

variable {limits : AgentLimits} {granted : Nat} {around : Surroundings} {turn : Nat} {started : ℚ}
  {failure : Option ProviderError} {log : List TraceEvent} {state after : BuyerState}

/-- A response that waits for its usage row. -/
def waitingOf (outcome : Except ProviderError (ProviderResponse × Nat)) : List ProviderResponse :=
  (outcome.map Prod.fst).toOption.toList

theorem throttle?_eq_none
    (other : ∀ detail retryAfter, outcome ≠ .error (.throttled detail retryAfter)) :
    throttle? (outcome.map Prod.fst) = none := by
  cases outcome with
  | ok => rfl
  | error raised =>
      cases raised with
      | throttled detail retryAfter => exact absurd rfl (other detail retryAfter)
      | unavailable => rfl
      | protocol => rfl
      | timeout => rfl

theorem tracks_attemptOnce (tracks : Tracks limits around [] failure log state)
    (asked : attemptOnce limits granted around turn started state = (.ok outcome, after))
    (noThrottle : throttle? (outcome.map Prod.fst) = none) :
    ∃ later, Tracks limits around (waitingOf outcome) (failureOf outcome) later after := by
  obtain ⟨attempt, readings, ⟨late, rfl, rfl⟩ | ⟨inTime, provided, rfl⟩⟩ := attemptOnce_eq_ok asked
  · exact ⟨_, (tracks.late late).same rfl rfl rfl rfl⟩
  · rw [provided] at noThrottle
    have sent := tracks.sent inTime noThrottle
    have sameFailure : failureOf outcome = failureOf (around.provider state.requests.length) := by
      rw [← provided]
      cases outcome <;> rfl
    rw [waitingOf, provided, sameFailure]
    exact ⟨_, sent.same rfl rfl rfl rfl⟩

theorem tracks_throttle {detail : String} {retryAfter : Option ℚ}
    (tracks : Tracks limits around [] failure log state)
    (asked : attemptOnce limits granted around turn started state =
      (.ok (.error (.throttled detail retryAfter)), after)) (place : Nat) :
    ∃ later, Tracks limits around [] (some (.throttled detail retryAfter)) later
      (after.add .providerError
        (throttleFields turn place (.throttled detail retryAfter) retryAfter)) := by
  obtain ⟨attempt, readings, ⟨_, isTimeout, _⟩ | ⟨inTime, provided, rfl⟩⟩ := attemptOnce_eq_ok asked
  · cases isTimeout
  · have noted := tracks.throttled inTime provided.symm turn place
    exact ⟨_, noted.same rfl rfl rfl rfl⟩

/-- The attempts of a turn: a throttled one is noted before the next is made. -/
theorem tracks_throttledRespond {left : Nat} (tracks : Tracks limits around [] failure log state)
    (asked : throttledRespond limits granted around turn started left state =
      (.ok outcome, after)) :
    ∃ later, Tracks limits around (waitingOf outcome) (failureOf outcome) later after := by
  induction left generalizing state failure log with
  | zero =>
      unfold throttledRespond at asked
      split at asked
      · rename_i tried
        obtain ⟨later, noted⟩ := tracks_throttle tracks tried (throttleRetryLimit - 0)
        cases asked
        exact ⟨later, noted⟩
      · rename_i other
        refine tracks_attemptOnce tracks asked (throttle?_eq_none ?_)
        rintro detail retryAfter rfl
        exact other detail retryAfter after asked
  | succ left ih =>
      unfold throttledRespond at asked
      split at asked
      · rename_i tried
        obtain ⟨later, noted⟩ := tracks_throttle tracks tried (throttleRetryLimit - (left + 1))
        dsimp only at asked
        split at asked
        · cases asked
          exact ⟨later, noted.read⟩
        · exact ih noted.read asked
      · rename_i other
        refine tracks_attemptOnce tracks asked (throttle?_eq_none ?_)
        rintro detail retryAfter rfl
        exact other detail retryAfter after asked

end Asking

/-! ## Ends -/

/-- What the event that ends the loop states. -/
def endFields (reason : String) (turn : Option Nat) : List (String × Json) :=
  ("reason", Payload.text reason) ::
    turn.elim [] fun turn => [("turn", Payload.number turn)]

/-- The reasons for an end that is no failure of the provider. -/
def endReasons : List String :=
  ["deadline_exceeded", "invalid_provider_response", "tool_call_budget_exceeded", "model_refusal",
    "unstructured_end", "structured_abstention", "turn_budget_exceeded"]

/-- How the loop ends, after what a log tells: with one event, or behind a failure that is noted
once more. -/
inductive Concludes (limits : AgentLimits) (around : Surroundings) (log : List TraceEvent)
    (last : BuyerState) : BuyerState → Prop
  | plain (eventType : TraceEventType) (reason : String) (turn : Option Nat)
      (tracks : Tracks limits around [] none log last) (ends : eventType.endsLoop = true)
      (known : reason ∈ endReasons) :
      Concludes limits around log last (last.add eventType (endFields reason turn))
  | unavailable (raised : ProviderError)
      (tracks : Tracks limits around [] (some raised) log last) :
      Concludes limits around log last
        ((last.add .providerError (errorFields last.turns raised)).add .agentAbort
          (endFields "provider_unavailable" (some last.turns)))

/-- What a turn comes to: the loop goes on, or ends. -/
def ComesTo (limits : AgentLimits) (around : Surroundings) : TurnEnd → BuyerState → Prop
  | .continues _, after => ∃ log, Tracks limits around [] none log after
  | .reported _, after => ∃ log last, Concludes limits around log last after

section Turns

variable [ArgumentReading] [ItemReading] [NestingLimit]
variable {limits : AgentLimits} {granted : Nat} {around : Surroundings} {turn : Nat} {started : ℚ}
variable {view : BuyerDiscoveryView} {mandateId merchantId : Uuid}
variable {log : List TraceEvent} {state after : BuyerState} {result : TurnEnd}

omit [ArgumentReading] [ItemReading] [NestingLimit] in
theorem comesTo_aborted {reason : String} {error : ReportedError}
    (tracks : Tracks limits around [] none log state) (known : reason ∈ endReasons)
    (ran : aborted merchantId reason turn error state = (.ok result, after)) :
    ComesTo limits around result after := by
  cases ran
  exact ⟨log, state, .plain .agentAbort reason (some turn) tracks rfl known⟩

theorem comesTo_runCalls {calls : List ProviderToolCall} {outputs : List Json}
    (tracks : Tracks limits around [] none log state)
    (ran : runCalls limits around view mandateId merchantId turn calls outputs state =
      (.ok result, after)) : ComesTo limits around result after := by
  induction calls generalizing outputs state log with
  | nil =>
      cases ran
      exact ⟨log, tracks⟩
  | cons call rest ih =>
      rw [runCalls_cons] at ran
      split at ran
      · have counted : Tracks limits around [] none log { state with calls := state.calls + 1 } :=
          tracks.same rfl rfl rfl rfl
        exact comesTo_aborted counted (by decide) ran
      · split at ran
        · cases ran
        · rename_i answer _
          obtain ⟨later, answered⟩ := tracks.answer { turn := turn, call := call, answer := answer }
          dsimp only at ran
          split at ran
          · cases ran
            exact ⟨later, _, .plain .agentFinal "structured_abstention" (some turn) answered rfl
              (by decide)⟩
          · exact ih answered ran

theorem comesTo_useResponse {response : ProviderResponse}
    (tracks : Tracks limits around [] none log state)
    (ran : useResponse limits around view mandateId merchantId turn started response state =
      (.ok result, after)) : ComesTo limits around result after := by
  have begun : Tracks limits around [] none log
      ({ state with previous := response.responseId } : BuyerState).read :=
    tracks.same rfl rfl rfl rfl
  unfold useResponse at ran
  dsimp only at ran
  split at ran
  · exact comesTo_aborted tracks (by decide) ran
  · split at ran
    · exact comesTo_aborted begun (by decide) ran
    · split at ran
      · split at ran
        · exact comesTo_aborted begun (by decide) ran
        · exact comesTo_aborted begun (by decide) ran
      · exact comesTo_runCalls begun ran

/-- One turn, after which the loop goes on or has ended. -/
theorem comesTo_runTurn (tracks : Tracks limits around [] none log state)
    (numbered : turn = state.turns + 1)
    (ran : runTurn limits granted around view mandateId merchantId turn started state =
      (.ok result, after)) : ComesTo limits around result after := by
  have begun : Tracks limits around [] none log
      ({ state with turns := state.turns + 1 } : BuyerState).read :=
    tracks.same rfl rfl rfl rfl
  unfold runTurn at ran
  dsimp only at ran
  split at ran
  · exact comesTo_aborted begun (by decide) ran
  · split at ran
    · cases ran
    · rename_i raised failed outcome
      obtain ⟨later, failing⟩ := tracks_throttledRespond begun outcome
      have asked : Asked turn throttleRetryLimit
          ({ state with turns := state.turns + 1 } : BuyerState).read
            (throttledRespond limits granted around turn started (throttleRetryLimit - 1)
              ({ state with turns := state.turns + 1 } : BuyerState).read).2 :=
        asked_throttledRespond _ _
      rw [outcome] at asked
      have ofTurn : failed.turns = turn := asked.turns.trans numbered.symm
      cases ran
      refine ⟨later, failed, ?_⟩
      rw [← ofTurn]
      exact .unavailable raised failing
    · rename_i outcome
      obtain ⟨later, waiting⟩ := tracks_throttledRespond begun outcome
      exact comesTo_useResponse (waiting.response (numbered ▸ Nat.le_add_left 1 _)) ran

theorem concludes_runTurns {left : Nat} {report : ExecutorReport}
    (tracks : Tracks limits around [] none log state) (numbered : turn = state.turns + 1)
    (ran : runTurns limits granted around view mandateId merchantId started left turn state =
      (.ok report, after)) : ∃ log last, Concludes limits around log last after := by
  induction left generalizing turn state log with
  | zero =>
      cases ran
      exact ⟨log, state, .plain .agentAbort "turn_budget_exceeded" none tracks rfl (by decide)⟩
  | succ left ih =>
      unfold runTurns at ran
      split at ran
      · cases ran
      · rename_i outcome
        cases ran
        exact comesTo_runTurn tracks numbered outcome
      · rename_i input reached outcome
        obtain ⟨later, goesOn⟩ := comesTo_runTurn tracks numbered outcome
        have turned : Turned turn state
            (runTurn limits granted around view mandateId merchantId turn started state).2 :=
          turned_runTurn state
        rw [outcome] at turned
        have given : Tracks limits around [] none later { reached with input := input } :=
          goesOn.same rfl rfl rfl rfl
        have next : turn + 1 = reached.turns + 1 :=
          congrArg (· + 1) (numbered.trans turned.turns.symm)
        exact ih given next ran

omit [ArgumentReading] [ItemReading] [NestingLimit] in
/-- Nothing is recorded before the first turn. -/
theorem tracks_initial (input : List Json) : Tracks limits around [] none [] { input := input } where
  counted := rfl
  kept := rfl
  goesOn := List.forall_mem_nil _
  passed := List.forall_mem_nil _
  rows := ⟨[], rfl, .nil, fun _ => .nil⟩
  errors := .nil
  last := rfl

/-- An execution that returns a report has concluded. -/
theorem concludes_execute {missionInput : Json} {report : ExecutorReport}
    (ran : execute limits granted around view mandateId merchantId missionInput =
      (.ok report, after)) : ∃ log last, Concludes limits around log last after :=
  concludes_runTurns (tracks_initial [missionInput]).read rfl ran

end Turns
end AgentRank.Benchmark.Llm
