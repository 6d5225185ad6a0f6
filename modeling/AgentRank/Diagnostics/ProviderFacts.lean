import AgentRank.Benchmark.EvidenceSurvival
import AgentRank.Diagnostics.Traces

/-!
# Whether trouble with the provider is read back as it happened

The loop notes a throttle inside a turn, and the failure that ends the mission once more behind
it.  The reader takes every failure but the last for one that was survived.  So the two agree
where the failure that ended the mission was no throttle, where every attempt was sent, and where
the event of the failure was not cut.
-/

namespace AgentRank.Diagnostics.Traces

open Benchmark Benchmark.Llm Constraints Representation Store

/-! ## Payloads that are kept -/

/-- The names of the fields that are read here. -/
def plainNames : List String :=
  ["reason", "turn", "invocation_sequence", "kind", "detail", "attempt", "retry_after_seconds"]

/-- What the adapters call a throttle. -/
def throttleLabel : String := "http_429"

/-- The names and the texts that are read here are short, and no name is a credential's. -/
theorem texts_short :
    (plainNames.all fun name =>
      decide ((name.toList.length ≤ maxKeyCharacters ∧ isSecret name = false) ∧
        (quoted name).toList.length ≤ 21)) = true ∧
      ((providerUnavailable :: endReasons).all fun reason =>
        decide (reason.toList.length ≤ maxTextLength ∧ (quoted reason).toList.length ≤ 40)) =
          true ∧
      (quoted throttledKind).toList.length = 24 ∧ (quoted throttleLabel).toList.length = 10 := by
  decide +kernel

theorem plain_of_mem {name : String} (known : name ∈ plainNames) :
    name.toList.length ≤ maxKeyCharacters ∧ isSecret name = false :=
  (of_decide_eq_true (List.all_eq_true.mp texts_short.1 name known)).1

theorem length_name_le {name : String} (known : name ∈ plainNames) :
    (quoted name).toList.length ≤ 21 :=
  (of_decide_eq_true (List.all_eq_true.mp texts_short.1 name known)).2

/-- A reason is short, in characters and as it is written. -/
theorem length_reason_le {reason : String} (known : reason ∈ providerUnavailable :: endReasons) :
    reason.toList.length ≤ maxTextLength ∧ (quoted reason).toList.length ≤ 40 :=
  of_decide_eq_true (List.all_eq_true.mp texts_short.2.1 reason known)

/-- The event that ends the loop is kept as it is. -/
theorem safePayload_endFields {reason : String}
    (known : reason ∈ providerUnavailable :: endReasons) (turn : Option Nat) :
    safePayload (.object (endFields reason turn)) = .object (endFields reason turn) := by
  obtain ⟨short, written⟩ := length_reason_le known
  have isReason : "reason" ∈ plainNames := by decide
  have isTurn : "turn" ∈ plainNames := by decide
  have reasonName := length_name_le isReason
  have turnName := length_name_le isTurn
  have reasonLength := fieldLength_text "reason" reason
  cases turn with
  | none =>
      have fieldsEq : endFields reason none = [("reason", Payload.text reason)] := rfl
      rw [fieldsEq]
      apply safePayload_of_short
      · apply clean_object_of_plain
        · simp
        · exact List.forall_mem_singleton.mpr ⟨plain_of_mem isReason, .text reason short⟩
      · simp only [List.map_cons, List.map_nil, List.sum_cons, List.sum_nil, reasonLength,
          maxPayloadBytes]
        omega
  | some turn =>
      have turnLength := fieldLength_number_le "turn" (.finite turn)
      have fieldsEq : endFields reason (some turn) =
          [("reason", Payload.text reason), ("turn", .scalar (.number (.finite turn)))] := rfl
      rw [fieldsEq]
      apply safePayload_of_short
      · apply clean_object_of_plain
        · simp
        · exact List.forall_mem_cons.mpr ⟨⟨plain_of_mem isReason, .text reason short⟩,
            List.forall_mem_singleton.mpr ⟨plain_of_mem isTurn, .number _⟩⟩
      · simp only [List.map_cons, List.map_nil, List.sum_cons, List.sum_nil, reasonLength,
          maxPayloadBytes, maxIntegerDigits] at turnLength ⊢
        omega

/-- The event that notes a throttle is kept as it is. -/
theorem safePayload_throttleFields (turn place : Nat) (retryAfter : Option ℚ) :
    safePayload (.object (throttleFields turn place (.throttled throttleLabel retryAfter)
        retryAfter)) =
      .object (throttleFields turn place (.throttled throttleLabel retryAfter) retryAfter) := by
  have known : ∀ name ∈ ["invocation_sequence", "kind", "detail", "attempt",
      "retry_after_seconds"], name ∈ plainNames := by
    intro name member
    exact List.mem_cons_of_mem _ (List.mem_cons_of_mem _ member)
  have texts : (quoted throttledKind).toList.length = 24 ∧
      (quoted throttleLabel).toList.length = 10 :=
    texts_short.2.2
  have waitClean : Clean (seconds retryAfter) := by
    cases retryAfter with
    | none => exact .null
    | some wait => exact .number _
  have waitLength : fieldLength "retry_after_seconds" (sortKeys (seconds retryAfter)) ≤
      (quoted "retry_after_seconds").toList.length + maxIntegerDigits + 3 := by
    cases retryAfter with
    | none =>
        have nullLength : fieldLength "retry_after_seconds" (sortKeys .null) =
            (quoted "retry_after_seconds").toList.length + 4 + 2 := rfl
        change fieldLength "retry_after_seconds" (sortKeys .null) ≤ _
        rw [nullLength, maxIntegerDigits]
        omega
    | some wait => exact fieldLength_number_le _ _
  have turnLength := fieldLength_number_le "invocation_sequence" (.finite turn)
  have placeLength := fieldLength_number_le "attempt" (.finite place)
  have invocationName := length_name_le (known "invocation_sequence" (by decide))
  have kindName := length_name_le (known "kind" (by decide))
  have detailName := length_name_le (known "detail" (by decide))
  have attemptName := length_name_le (known "attempt" (by decide))
  have waitName := length_name_le (known "retry_after_seconds" (by decide))
  have fieldsEq : throttleFields turn place (.throttled throttleLabel retryAfter) retryAfter =
      [("invocation_sequence", .scalar (.number (.finite turn))),
        ("kind", Payload.text throttledKind), ("detail", Payload.text throttleLabel),
        ("attempt", .scalar (.number (.finite place))),
        ("retry_after_seconds", seconds retryAfter)] := rfl
  rw [fieldsEq]
  apply safePayload_of_short
  · apply clean_object_of_plain
    · simp
    · simp only [List.forall_mem_cons]
      exact ⟨⟨plain_of_mem (by decide), .number _⟩,
        ⟨plain_of_mem (by decide), .text _ (by decide)⟩,
        ⟨plain_of_mem (by decide), .text _ (by decide)⟩,
        ⟨plain_of_mem (by decide), .number _⟩, ⟨plain_of_mem (by decide), waitClean⟩,
        List.forall_mem_nil _⟩
  · simp only [List.map_cons, List.map_nil, List.sum_cons, List.sum_nil, fieldLength_text, texts,
      maxPayloadBytes, maxIntegerDigits] at turnLength placeLength waitLength ⊢
    omega

/-- What a failure that ends the mission is told with. -/
def toldFields (turn : Nat) (raised : ProviderError) : List (String × Json) :=
  [("invocation_sequence", Payload.number turn), ("kind", Payload.text raised.kind),
    ("detail", Payload.text (truncated maxTextLength raised.detail))]

/-- The event of a failure is short enough to be kept. -/
def FailureTold (turn : Nat) (raised : ProviderError) : Prop :=
  (canonicalText (.object (toldFields turn raised))).length ≤ maxPayloadBytes

theorem sanitize_errorFields (turn : Nat) (raised : ProviderError) :
    sanitize (.object (errorFields turn raised)) = .object (toldFields turn raised) := by
  have kind : truncated maxTextLength raised.kind = raised.kind := by
    apply truncated_of_short
    cases raised with
    | throttled => exact (by decide : "ProviderThrottledError".toList.length ≤ maxTextLength)
    | unavailable => exact (by decide : "ProviderUnavailableError".toList.length ≤ maxTextLength)
    | protocol => exact (by decide : "ProviderProtocolError".toList.length ≤ maxTextLength)
    | timeout => exact (by decide : "TimeoutError".toList.length ≤ maxTextLength)
  have names : ∀ name ∈ plainNames, truncated maxKeyCharacters name = name ∧
      isSecret name = false := fun name known =>
    ⟨truncated_of_short (plain_of_mem known).1, (plain_of_mem known).2⟩
  have invocation := names "invocation_sequence" (by decide)
  have kindName := names "kind" (by decide)
  have detail := names "detail" (by decide)
  have fieldsEq : sanitizeFields (errorFields turn raised) = toldFields turn raised := by
    simp only [errorFields, sanitizeFields, toldFields, invocation, kindName, detail,
      Bool.false_eq_true, if_false, Payload.text, Payload.number, sanitize, kind]
  have distinct : ((toldFields turn raised).map Prod.fst).Nodup := by
    simp [toldFields]
  rw [sanitize, fieldsEq, dictOf_distinct distinct]

variable {raised : ProviderError}

theorem safePayload_of_told {turn : Nat} (told : FailureTold turn raised) :
    safePayload (.object (errorFields turn raised)) = .object (toldFields turn raised) := by
  rw [safePayload, sanitize_errorFields]
  exact if_pos told

theorem safePayload_of_cut {turn : Nat} (cut : ¬FailureTold turn raised) :
    safePayload (.object (errorFields turn raised)) =
      cutPayload (canonicalText (.object (toldFields turn raised))) := by
  rw [safePayload, sanitize_errorFields]
  exact if_neg cut

/-- A stored event is one of the evidence, under some identifier. -/
def StoredAs (record : TraceEventRecord) (event : TraceEvent) : Prop :=
  record.eventType = event.eventType.value ∧ .object record.payload = event.payload

/-- The events of evidence are stored in their order. -/
def Stores (records : List TraceEventRecord) (events : List TraceEvent) : Prop :=
  List.Forall₂ StoredAs records events

theorem value_inj {first second : TraceEventType} : first.value = second.value ↔ first = second := by
  constructor
  · intro same
    have looked : eventTypeOf (Payload.text first.value) = eventTypeOf (Payload.text second.value) :=
      congrArg (fun value => eventTypeOf (Payload.text value)) same
    rw [eventTypeOf_value, eventTypeOf_value] at looked
    exact Except.ok.inj looked
  · exact congrArg TraceEventType.value

theorem StoredAs.isOf {record : TraceEventRecord} {event : TraceEvent}
    (stored : StoredAs record event) (kind : TraceEventType) :
    record.isOf kind.value = decide (event.eventType = kind) := by
  rw [TraceEventRecord.isOf, stored.1, Bool.eq_iff_iff, beq_iff_eq, decide_eq_true_eq, value_inj]

section Stored

variable {records : List TraceEventRecord} {events : List TraceEvent} {event : TraceEvent}

theorem Stores.filter (stores : Stores records events) (kind : TraceEventType) :
    Stores (records.filter (TraceEventRecord.isOf kind.value))
      (events.filter fun event => decide (event.eventType = kind)) := by
  induction stores with
  | nil => exact .nil
  | cons stored _ ih =>
      rw [List.filter_cons, List.filter_cons, stored.isOf kind]
      split
      · exact .cons stored ih
      · exact ih

/-- The last event is stored last. -/
theorem Stores.concat (stores : Stores records (events ++ [event])) :
    ∃ front last, records = front ++ [last] ∧ Stores front events ∧ StoredAs last event := by
  have front := List.forall₂_take_append records events [event] stores
  have rest := List.forall₂_drop_append records events [event] stores
  obtain ⟨last, isRest⟩ := List.length_eq_one_iff.mp rest.length_eq
  rw [isRest] at rest
  refine ⟨records.take events.length, last, ?_, front, ?_⟩
  · rw [← isRest, List.take_append_drop]
  · cases rest with
    | cons stored _ => exact stored

/-- Where every throttle is what the adapters call one, every note of one is read as one. -/
theorem throttles_read {throttles : List ProviderError} (stores : Stores records events)
    (notes : List.Forall₂ NotesThrottle (errorPayloads events) throttles)
    (labelled : ∀ raised ∈ throttles, raised.detail = throttleLabel) :
    ((records.filter (TraceEventRecord.isOf providerErrorEvent)).filter
      TraceEventRecord.isThrottle).length = throttles.length := by
  have errors := stores.filter .providerError
  have each : ∀ record ∈ records.filter (TraceEventRecord.isOf providerErrorEvent),
      record.isThrottle = true := by
    intro record member
    obtain ⟨event, isEvent, stored⟩ := exists_right_of_forall₂ errors member
    obtain ⟨raised, isRaised, detail, retryAfter, turn, place, rfl, noted⟩ :=
      exists_right_of_forall₂ notes (List.mem_map_of_mem isEvent)
    have label : detail = throttleLabel := labelled _ isRaised
    subst label
    rw [safePayload_throttleFields, ← stored.2] at noted
    have fields := Json.object.inj noted
    rw [TraceEventRecord.isThrottle, TraceEventRecord.get, fields]
    rfl
  rw [List.filter_eq_self.mpr each, ← notes.length_eq, errorPayloads, List.length_map]
  exact errors.length_eq

end Stored

/-- A throttle carries the label of the adapters. -/
def ThrottlesLabelled (around : Surroundings) : Prop :=
  ∀ place detail retryAfter, around.provider place = .error (.throttled detail retryAfter) →
    detail = throttleLabel

/-- The throttled requests behind which another request was made. -/
def recoveredThrottles (around : Surroundings) (state : BuyerState) : Nat :=
  (List.range (state.requests.length - 1)).countP fun place =>
    (throttle? (around.provider place)).isSome

section Requests

variable {around : Surroundings} {state : BuyerState}

theorem throttle?_eq_some_iff {outcome : Outcome} :
    throttle? outcome = some raised ↔
      ∃ detail retryAfter, outcome = .error (.throttled detail retryAfter) ∧
        raised = .throttled detail retryAfter := by
  cases outcome with
  | ok response => simp [throttle?]
  | error failed =>
      cases failed with
      | throttled detail retryAfter => simp [throttle?, eq_comm]
      | unavailable detail => simp [throttle?]
      | protocol detail => simp [throttle?]
      | timeout => simp [throttle?]

theorem detail_of_throttles (labelled : ThrottlesLabelled around) :
    ∀ raised ∈ throttlesOf (outcomes around state), raised.detail = throttleLabel := by
  intro raised member
  obtain ⟨outcome, isOutcome, isThrottle⟩ := List.mem_filterMap.mp member
  obtain ⟨place, _, rfl⟩ := List.mem_map.mp isOutcome
  obtain ⟨detail, retryAfter, provided, rfl⟩ := throttle?_eq_some_iff.mp isThrottle
  exact labelled place detail retryAfter provided

/-- Every throttle but that of the last request was recovered from. -/
theorem length_throttlesOf :
    (throttlesOf (outcomes around state)).length =
      recoveredThrottles around state +
        if state.requests ≠ [] ∧
          (throttle? (around.provider (state.requests.length - 1))).isSome = true then 1 else 0 := by
  rw [throttlesOf, outcomes, List.filterMap_map, List.length_filterMap_eq_countP,
    recoveredThrottles]
  cases made : state.requests.length with
  | zero =>
      have none : state.requests = [] := List.length_eq_zero_iff.mp made
      simp [none]
  | succ count =>
      have some : state.requests ≠ [] := List.ne_nil_of_length_eq_add_one made
      rw [Nat.add_sub_cancel, List.range_succ, List.countP_append, List.countP_singleton]
      simp [some]

/-- Where every attempt was sent, the last request tells how the last attempt failed. -/
theorem lastFailure_of_sent (sent : state.requests = state.attempted)
    (inTime : ∀ attempt ∈ state.attempted, 0 < attempt.timeLeft) :
    lastFailure around state =
      if state.requests = [] then none
      else failureOf (around.provider (state.requests.length - 1)) := by
  rw [lastFailure, ← sent]
  cases isLast : state.requests.getLast? with
  | none =>
      rw [List.getLast?_eq_none_iff] at isLast
      rw [if_pos isLast]
  | some attempt =>
      have member : attempt ∈ state.requests := List.mem_of_getLast? isLast
      have stated : state.requests ≠ [] := List.ne_nil_of_mem member
      have late : ¬attempt.timeLeft ≤ 0 := not_le.mpr (inTime attempt (sent ▸ member))
      dsimp only
      rw [if_neg late, if_neg stated]

theorem throttle?_isSome (outcome : Outcome) :
    (throttle? outcome).isSome = (failureOf outcome).any ProviderError.isThrottle := by
  cases outcome with
  | ok => rfl
  | error raised => cases raised <;> rfl

/-- Every throttle was recovered from, unless the run failed with one. -/
theorem length_throttlesOf_of_sent (sent : state.requests = state.attempted)
    (inTime : ∀ attempt ∈ state.attempted, 0 < attempt.timeLeft) :
    (throttlesOf (outcomes around state)).length =
      recoveredThrottles around state +
        if (lastFailure around state).any ProviderError.isThrottle = true then 1 else 0 := by
  rw [length_throttlesOf, lastFailure_of_sent sent inTime, throttle?_isSome]
  by_cases none : state.requests = []
  · simp [none]
  · rw [if_neg none]
    simp [none]

end Requests

/-! ## What is read -/

/-- What a detail says to the reader: a text that is stated, and not too much of it. -/
def readDetail (raised : ProviderError) : Option String :=
  if raised.detail = "" then none
  else some (String.ofList (raised.detail.toList.take maxDetailCharacters))

/-- The facts say of the provider what the run met. -/
structure ReadsProvider (around : Surroundings) (state : BuyerState) (facts : TraceFacts) :
    Prop where
  outage : (facts.providerFaults.any fun faults => faults.outageTerminatedMission) =
    (lastFailure around state).isSome
  kind : (facts.providerFaults.bind fun faults => faults.terminatingKind) =
    (lastFailure around state).map ProviderError.kind
  detail : facts.providerFaults.bind ProviderFaultFacts.terminatingDetail =
    (lastFailure around state).bind readDetail
  recovered : (facts.providerFaults.map fun faults => faults.throttlesRecovered).getD 0 =
    recoveredThrottles around state
  invocations : facts.interactions.modelInvocations = state.requests.length

section Ends

variable {front : List TraceEventRecord} {last : TraceEventRecord} {log : List TraceEvent}
  {eventType : TraceEventType} {reason : String} {turn : Option Nat}

theorem get_reason (stored : StoredAs last (recordOf eventType (endFields reason turn)))
    (known : reason ∈ providerUnavailable :: endReasons) :
    last.get "reason" = Payload.text reason := by
  have payload : Json.object last.payload = .object (endFields reason turn) := by
    rw [stored.2, recordOf, safePayload_endFields known]
  rw [TraceEventRecord.get, Json.object.inj payload]
  rfl

theorem statedText_reason (known : reason ∈ providerUnavailable :: endReasons) :
    statedText (Payload.text reason) = some reason := by
  have stated : ((providerUnavailable :: endReasons).all fun reason => decide (reason ≠ "")) =
      true := by
    decide
  exact if_neg (of_decide_eq_true (List.all_eq_true.mp stated reason known))

/-- No event of a loop that goes on is an abort. -/
theorem no_abort (stores : Stores front log)
    (goesOn : ∀ event ∈ log, event.eventType.endsLoop = false) :
    ∀ record ∈ front, record.isOf abortEvent = false := by
  intro record member
  obtain ⟨event, isEvent, stored⟩ := exists_right_of_forall₂ stores member
  have other : event.eventType ≠ .agentAbort := by
    intro isAbort
    have goes := goesOn event isEvent
    rw [isAbort] at goes
    cases goes
  exact (stored.isOf .agentAbort).trans (decide_eq_false other)

/-- An end without a failure is no abort for a failure. -/
theorem abortReason_of_plain (stores : Stores front log)
    (goesOn : ∀ event ∈ log, event.eventType.endsLoop = false)
    (stored : StoredAs last (recordOf eventType (endFields reason turn)))
    (known : reason ∈ endReasons) :
    lastField (front ++ [last]) abortEvent "reason" ≠ some providerUnavailable := by
  have isKnown : reason ∈ providerUnavailable :: endReasons := List.mem_cons_of_mem _ known
  have isOf := stored.isOf .agentAbort
  by_cases isAbort : (recordOf eventType (endFields reason turn)).eventType = .agentAbort
  · have isKind : last.isOf abortEvent = true := isOf.trans (decide_eq_true isAbort)
    rw [lastField_append_of isKind, get_reason stored isKnown, statedText_reason isKnown]
    intro same
    cases same
    exact absurd known (by decide)
  · have isOther : last.isOf abortEvent = false := isOf.trans (decide_eq_false isAbort)
    rw [lastField_append_other isOther, lastField_of_none (no_abort stores goesOn)]
    exact (Option.some_ne_none _).symm

/-- What the reader makes of a loop that ended without a failure. -/
theorem faults_of_plain (usages : List ProviderUsageRecord) (stores : Stores front log)
    (goesOn : ∀ event ∈ log, event.eventType.endsLoop = false)
    (stored : StoredAs last (recordOf eventType (endFields reason turn)))
    (ends : eventType.endsLoop = true) (known : reason ∈ endReasons) :
    let faults := (traceFacts (front ++ [last]) usages).providerFaults
    (faults.any fun faults => faults.outageTerminatedMission) = false ∧
      (faults.bind fun faults => faults.terminatingKind) = none ∧
      faults.bind ProviderFaultFacts.terminatingDetail = none ∧
      (faults.map fun faults => faults.throttlesRecovered).getD 0 =
        ((front.filter (TraceEventRecord.isOf providerErrorEvent)).filter
          TraceEventRecord.isThrottle).length := by
  have noError : last.isOf providerErrorEvent = false := by
    refine (stored.isOf .providerError).trans (decide_eq_false ?_)
    intro isError
    have sameType : eventType = .providerError := isError
    rw [sameType] at ends
    cases ends
  have errors : (front ++ [last]).filter (TraceEventRecord.isOf providerErrorEvent) =
      front.filter (TraceEventRecord.isOf providerErrorEvent) := by
    rw [List.filter_append, List.filter_cons, noError]
    exact List.append_nil _
  intro faults
  have faultsEq : faults =
      providerFaultsOf (lastField (front ++ [last]) abortEvent "reason")
        (front.filter (TraceEventRecord.isOf providerErrorEvent)) :=
    congrArg (providerFaultsOf _) errors
  rw [faultsEq, providerFaultsOf, if_neg (abortReason_of_plain stores goesOn stored known)]
  split
  · rename_i none
    rw [none]
    exact ⟨rfl, rfl, rfl, rfl⟩
  · exact ⟨rfl, rfl, rfl, rfl⟩

variable {failed : TraceEventRecord}

/-- What the reader makes of a loop that a failure ended. -/
theorem faults_of_unavailable {number : Nat} (front : List TraceEventRecord)
    (usages : List ProviderUsageRecord)
    (noted : StoredAs failed (recordOf .providerError (errorFields number raised)))
    (stored : StoredAs last (recordOf .agentAbort (endFields providerUnavailable (some number)))) :
    (traceFacts (front ++ [failed] ++ [last]) usages).providerFaults =
      some
        { outageTerminatedMission := true
          terminatingKind := statedText (failed.get "kind")
          terminatingEventId := failed.identifier
          throttlesRecovered :=
            ((front.filter (TraceEventRecord.isOf providerErrorEvent)).filter
              TraceEventRecord.isThrottle).length
          terminatingDetail := bounded (failed.get "detail") } := by
  have isAbort : last.isOf abortEvent = true := (stored.isOf .agentAbort).trans (decide_eq_true rfl)
  have noError : last.isOf providerErrorEvent = false :=
    (stored.isOf .providerError).trans (decide_eq_false (by rintro ⟨⟩))
  have isError : failed.isOf providerErrorEvent = true :=
    (noted.isOf .providerError).trans (decide_eq_true rfl)
  have errors : (front ++ [failed] ++ [last]).filter (TraceEventRecord.isOf providerErrorEvent) =
      front.filter (TraceEventRecord.isOf providerErrorEvent) ++ [failed] := by
    simp [List.filter_append, isError, noError]
  have reason : lastField (front ++ [failed] ++ [last]) abortEvent "reason" =
      some providerUnavailable := by
    rw [lastField_append_of isAbort, get_reason stored List.mem_cons_self,
      statedText_reason List.mem_cons_self]
  have faultsEq : (traceFacts (front ++ [failed] ++ [last]) usages).providerFaults =
      providerFaultsOf (some providerUnavailable)
        (front.filter (TraceEventRecord.isOf providerErrorEvent) ++ [failed]) :=
    congrArg₂ providerFaultsOf reason errors
  rw [faultsEq, providerFaultsOf, if_pos rfl, List.getLast?_concat, List.dropLast_concat]
  rfl

/-- The event of a failure says what failed, unless it was cut. -/
theorem read_of_told {number : Nat}
    (noted : StoredAs failed (recordOf .providerError (errorFields number raised)))
    (told : FailureTold number raised) :
    statedText (failed.get "kind") = some raised.kind ∧
      bounded (failed.get "detail") = readDetail raised := by
  have payload : Json.object failed.payload = .object (toldFields number raised) := by
    rw [noted.2, recordOf, safePayload_of_told told]
  have kind : failed.get "kind" = Payload.text raised.kind := by
    rw [TraceEventRecord.get, Json.object.inj payload]
    rfl
  have detail : failed.get "detail" = Payload.text (truncated maxTextLength raised.detail) := by
    rw [TraceEventRecord.get, Json.object.inj payload]
    rfl
  rw [kind, detail]
  constructor
  · cases raised <;> rfl
  · have begins : (truncated maxTextLength raised.detail).toList.take maxDetailCharacters =
        raised.detail.toList.take maxDetailCharacters := by
      rw [truncated, String.toList_ofList, List.take_take]
      rfl
    by_cases none : raised.detail = ""
    · have empty : truncated maxTextLength raised.detail = "" := by
        rw [none]
        rfl
      rw [empty, readDetail, if_pos none]
      rfl
    · have stated : truncated maxTextLength raised.detail ≠ "" := by
        intro empty
        apply none
        have noChars := congrArg String.toList empty
        rw [truncated, String.toList_ofList] at noChars
        rw [← String.toList_eq_nil_iff]
        exact (List.take_eq_nil_iff.mp noChars).resolve_left (by decide)
      rw [readDetail, if_neg none, ← begins, bounded]
      change (if _ = "" then _ else _ : Option String).map _ = _
      rw [if_neg stated]
      rfl

theorem kind_of_cut {number : Nat}
    (noted : StoredAs failed (recordOf .providerError (errorFields number raised)))
    (cut : ¬FailureTold number raised) : statedText (failed.get "kind") = none := by
  have payload : Json.object failed.payload =
      cutPayload (canonicalText (.object (toldFields number raised))) := by
    rw [noted.2, recordOf, safePayload_of_cut cut]
  rw [TraceEventRecord.get, Json.object.inj payload]
  rfl

end Ends

/-! ## Runs that have ended -/

/-- The failure that ended a run, if one did, was no throttle and was noted in full. -/
def EndsTold (around : Surroundings) (state : BuyerState) : Prop :=
  ∀ raised, lastFailure around state = some raised →
    raised.isThrottle = false ∧ FailureTold state.turns raised

section Runs

variable {limits : AgentLimits} {around : Surroundings} {log : List TraceEvent}
  {ending : TraceEvent} {final state : BuyerState} {records : List TraceEventRecord}

/-- The events of a run that has ended cross as they are. -/
theorem crossed_events (ended : Ended limits around log ending state) :
    state.evidence.crossed.events = state.evidence.events := by
  have kept : ∀ event ∈ state.evidence.events, event.crossed = event := by
    intro event member
    obtain ⟨value, passed⟩ := ended.passed_events event member
    rw [TraceEvent.crossed, passed, safePayload_safePayload, safePayload_safePayload, ← passed]
  rw [AgentExecutionEvidence.crossed, List.map_congr_left kept, List.map_id']

/-- The requests that are read are those that were made where every attempt was sent. -/
theorem invocations_iff {granted : Nat} (accounted : Accounted limits granted state)
    (within : state.added ≤ maxEvents) (stores : Stores records state.evidence.events) :
    countOf modelRequestEvent records = state.requests.length ↔
      ∀ attempt ∈ state.attempted, 0 < attempt.timeLeft := by
  have read : countOf modelRequestEvent records = state.attempted.length := by
    calc
      countOf modelRequestEvent records =
          (requestPayloads state.evidence.events).length := by
        rw [requestPayloads, List.length_map]
        exact (stores.filter .modelRequest).length_eq
      _ = state.attempted.length := by
        rw [accounted.written within, List.length_map]
  rw [read, accounted.sentInTime, eq_comm, List.length_filter_eq_length_iff]
  exact forall₂_congr fun attempt _ => decide_eq_true_iff

theorem requests_of_inTime {granted : Nat} (accounted : Accounted limits granted state)
    (inTime : ∀ attempt ∈ state.attempted, 0 < attempt.timeLeft) :
    state.requests = state.attempted := by
  rw [accounted.sentInTime, List.filter_eq_self]
  exact fun attempt member => decide_eq_true (inTime attempt member)

/-- A run that ended without a failure. -/
theorem readsProvider_of_plain {granted : Nat} {last : BuyerState} {eventType : TraceEventType}
    {reason : String} {turn : Option Nat} (labelled : ThrottlesLabelled around)
    (tracks : Tracks limits around [] none log last) (ends : eventType.endsLoop = true)
    (known : reason ∈ endReasons) (isFinal : final = last.add eventType (endFields reason turn))
    (accounted : Accounted limits granted final) (within : final.added ≤ maxEvents)
    (stores : Stores records final.evidence.events) (usages : List ProviderUsageRecord) :
    ReadsProvider around final (traceFacts records usages) ↔
      (∀ attempt ∈ final.attempted, 0 < attempt.timeLeft) ∧ EndsTold around final := by
  have invocations := invocations_iff accounted within stores
  have noFailure : lastFailure around final = none := by
    rw [isFinal]
    exact tracks.last
  have told : EndsTold around final := by
    intro raised isLast
    rw [noFailure] at isLast
    cases isLast
  have ended : Ended limits around log (recordOf eventType (endFields reason turn)) final := by
    rw [isFinal]
    exact ended_of_logs tracks.toLogs ends (endFields reason turn)
  rw [ended.events_of_room within] at stores
  obtain ⟨front, ending, rfl, kept, stored⟩ := stores.concat
  obtain ⟨outage, kind, detail, recovered⟩ :=
    faults_of_plain usages kept tracks.goesOn stored ends known
  have throttles := throttles_read kept tracks.errors (detail_of_throttles labelled)
  constructor
  · intro reads
    exact ⟨invocations.mp reads.invocations, told⟩
  · rintro ⟨inTime, _⟩
    have counted : (throttlesOf (outcomes around final)).length =
        recoveredThrottles around final := by
      rw [length_throttlesOf_of_sent (requests_of_inTime accounted inTime) inTime, noFailure]
      rfl
    constructor
    · rw [outage, noFailure]
      rfl
    · rw [kind, noFailure]
      rfl
    · rw [detail, noFailure]
      rfl
    · rw [recovered, throttles, ← outcomes_add, ← isFinal]
      exact counted
    · exact invocations.mpr inTime

/-- A run that a failure ended. -/
theorem readsProvider_of_unavailable {granted : Nat} {last : BuyerState}
    (labelled : ThrottlesLabelled around)
    (tracks : Tracks limits around [] (some raised) log last)
    (isFinal : final = (last.add .providerError (errorFields last.turns raised)).add .agentAbort
      (endFields providerUnavailable (some last.turns)))
    (accounted : Accounted limits granted final) (within : final.added ≤ maxEvents)
    (stores : Stores records final.evidence.events) (usages : List ProviderUsageRecord) :
    ReadsProvider around final (traceFacts records usages) ↔
      (∀ attempt ∈ final.attempted, 0 < attempt.timeLeft) ∧ EndsTold around final := by
  have invocations := invocations_iff accounted within stores
  have failure : lastFailure around final = some raised := by
    rw [isFinal]
    exact tracks.last
  have turns : final.turns = last.turns := by
    rw [isFinal]
    rfl
  have made : outcomes around last = outcomes around final := by
    rw [isFinal, outcomes_add, outcomes_add]
  have noted := tracks.toLogs.note .providerError (errorFields last.turns raised) rfl
  have ended : Ended limits around (log ++ [recordOf .providerError (errorFields last.turns raised)])
      (recordOf .agentAbort (endFields providerUnavailable (some last.turns))) final := by
    rw [isFinal]
    exact ended_of_logs noted rfl _
  rw [ended.events_of_room within] at stores
  obtain ⟨before, ending, rfl, kept, stored⟩ := stores.concat
  obtain ⟨front, failed, rfl, keptFront, isFailed⟩ := kept.concat
  have faults := faults_of_unavailable front usages isFailed stored
  have throttles := throttles_read keptFront tracks.errors (detail_of_throttles labelled)
  rw [made] at throttles
  have counted (inTime : ∀ attempt ∈ final.attempted, 0 < attempt.timeLeft) :
      (throttlesOf (outcomes around final)).length =
        recoveredThrottles around final + if raised.isThrottle = true then 1 else 0 := by
    rw [length_throttlesOf_of_sent (requests_of_inTime accounted inTime) inTime, failure]
    rfl
  constructor
  · intro reads
    have inTime := invocations.mp reads.invocations
    refine ⟨inTime, ?_⟩
    intro other isLast
    obtain rfl : raised = other := Option.some.inj (failure.symm.trans isLast)
    have recovered := reads.recovered
    have kind := reads.kind
    rw [faults] at recovered kind
    rw [failure] at kind
    constructor
    · have same : (throttlesOf (outcomes around final)).length =
          recoveredThrottles around final := throttles.symm.trans recovered
      rw [counted inTime] at same
      by_contra isThrottle
      rw [if_pos (Bool.eq_true_of_not_eq_false isThrottle)] at same
      omega
    · by_contra cut
      rw [turns] at cut
      have unread := kind_of_cut isFailed cut
      exact Option.some_ne_none _ (kind.symm.trans unread)
  · rintro ⟨inTime, told⟩
    obtain ⟨noThrottle, isTold⟩ := told raised failure
    rw [turns] at isTold
    obtain ⟨kind, detail⟩ := read_of_told isFailed isTold
    constructor
    · rw [faults, failure]
      rfl
    · rw [faults, failure]
      exact kind
    · rw [faults, failure]
      exact detail
    · have all := counted inTime
      rw [noThrottle] at all
      rw [faults]
      exact throttles.trans all
    · exact invocations.mpr inTime

end Runs

section Executions

variable [ArgumentReading] [ItemReading] [NestingLimit]

/-- A run that reports has ended. -/
theorem ended_of_execute {limits : AgentLimits} {granted : Nat} {around : Surroundings}
    {view : BuyerDiscoveryView} {mandateId merchantId : Uuid} {missionInput : Json}
    {report : ExecutorReport} {final : BuyerState}
    (ran : execute limits granted around view mandateId merchantId missionInput =
      (.ok report, final)) : ∃ log ending, Ended limits around log ending final := by
  obtain ⟨_, _, concludes⟩ := concludes_execute ran
  exact ended_of_concludes concludes

/-- Trouble with the provider is read back as it happened exactly where every attempt was sent
and the failure that ended the run, if one did, was no throttle and was noted in full. -/
theorem readsProvider_iff (limits : AgentLimits) (granted : Nat) (around : Surroundings)
    (labelled : ThrottlesLabelled around) (view : BuyerDiscoveryView) (mandateId merchantId : Uuid)
    (missionInput : Json) {report : ExecutorReport} {final : BuyerState}
    (ran : execute limits granted around view mandateId merchantId missionInput =
      (.ok report, final)) (within : final.added ≤ maxEvents)
    {records : List TraceEventRecord} (stores : Stores records final.evidence.crossed.events)
    (usages : List ProviderUsageRecord) :
    ReadsProvider around final (traceFacts records usages) ↔
      (∀ attempt ∈ final.attempted, 0 < attempt.timeLeft) ∧ EndsTold around final := by
  obtain ⟨log, last, concludes⟩ := concludes_execute ran
  have reached := reaches_execute limits granted around view mandateId merchantId missionInput
  rw [ran] at reached
  have accounted : Accounted limits granted final :=
    reached.keeps limits granted around view mandateId accounted_of_move
      (accounted_initial [missionInput])
  obtain ⟨_, _, ended⟩ := ended_of_concludes concludes
  rw [crossed_events ended] at stores
  cases concludes with
  | plain eventType reason turn tracks ends known =>
      exact readsProvider_of_plain labelled tracks ends known rfl accounted within stores usages
  | unavailable raised tracks =>
      exact readsProvider_of_unavailable labelled tracks rfl accounted within stores usages

end Executions

/-! ## A failure that is read, and one that is not -/

/-- An event as it is stored, under no identifier. -/
def storedRecord (event : TraceEvent) : TraceEventRecord where
  identifier := none
  eventType := event.eventType.value
  payload :=
    match event.payload with
    | .object fields => fields
    | _ => []

/-- Evidence that has crossed can be stored. -/
theorem stores_storedRecord (evidence : AgentExecutionEvidence) :
    Stores (evidence.crossed.events.map storedRecord) evidence.crossed.events := by
  rw [Stores, List.forall₂_map_left_iff, List.forall₂_same]
  intro event member
  obtain ⟨before, _, rfl⟩ := List.mem_map.mp member
  obtain ⟨kept, isObject⟩ := safePayload_object (safePayload before.payload)
  exact ⟨rfl, by simp only [storedRecord, TraceEvent.crossed, isObject]⟩

/-- A provider that fails in one way, while no time passes. -/
def failingProvider (raised : ProviderError) : Surroundings where
  clock _ := 0
  provider _ := .error raised
  merchant _ := refusingSurface

theorem http_500_read :
    let _ := noArguments
    let _ := noItems
    let _ := noLimit
    ∃ report final records,
      execute oneTurn 6 (failingProvider (.unavailable "http_500")) { kind := .storefront } 1 2
          .null = (.ok report, final) ∧
        Stores records final.evidence.crossed.events ∧
          ReadsProvider (failingProvider (.unavailable "http_500")) final
            (traceFacts records []) := by
  intro _ _ _
  generalize isRun : execute oneTurn 6 (failingProvider (.unavailable "http_500"))
    { kind := .storefront } 1 2 .null = run
  have facts : (execute oneTurn 6 (failingProvider (.unavailable "http_500"))
        { kind := .storefront } 1 2 .null).1.toOption.isSome = true ∧
      (execute oneTurn 6 (failingProvider (.unavailable "http_500"))
        { kind := .storefront } 1 2 .null).2.added ≤ maxEvents ∧
      (execute oneTurn 6 (failingProvider (.unavailable "http_500"))
        { kind := .storefront } 1 2 .null).2.attempted.map Attempt.timeLeft = [120] ∧
      (execute oneTurn 6 (failingProvider (.unavailable "http_500"))
        { kind := .storefront } 1 2 .null).2.turns = 1 := by
    decide +kernel
  rw [isRun] at facts
  obtain ⟨outcome, final⟩ := run
  obtain ⟨reported, within, timeLeft, turns⟩ := facts
  cases outcome with
  | error => cases reported
  | ok report =>
      have stores := stores_storedRecord final.evidence
      refine ⟨report, final, _, rfl, stores, (readsProvider_iff oneTurn 6 _ ?_ _ 1 2 .null isRun
        within stores []).mpr ⟨?_, ?_⟩⟩
      · rintro place detail retryAfter ⟨⟩
      · intro attempt member
        have isLeft := List.mem_map_of_mem (f := Attempt.timeLeft) member
        rw [timeLeft] at isLeft
        rw [List.mem_singleton.mp isLeft]
        norm_num
      · intro raised isLast
        rw [lastFailure] at isLast
        split at isLast
        · cases isLast
        · rename_i attempt isAttempt
          have isLeft := List.mem_map_of_mem (f := Attempt.timeLeft) (List.mem_of_getLast? isAttempt)
          rw [timeLeft] at isLeft
          rw [if_neg (by rw [List.mem_singleton.mp isLeft]; norm_num)] at isLast
          cases isLast
          rw [turns]
          refine ⟨rfl, ?_⟩
          rw [FailureTold]
          decide +kernel

/-- A turn that is throttled to its end: two requests were followed by another one, and three
throttles are read as survived. -/
theorem throttled_turn_misread :
    let _ := noArguments
    let _ := noItems
    let _ := noLimit
    let around := failingProvider (.throttled throttleLabel none)
    let ended := execute oneTurn 6 around { kind := .storefront } 1 2 .null
    let records := ended.2.evidence.crossed.events.map storedRecord
    (∃ report, ended.1 = .ok report) ∧ ended.2.added ≤ maxEvents ∧
      Stores records ended.2.evidence.crossed.events ∧
        ¬ReadsProvider around ended.2 (traceFacts records []) := by
  intro _ _ _ around ended records
  have facts : ended.1.toOption.isSome = true ∧ ended.2.added ≤ maxEvents ∧
      recoveredThrottles around ended.2 = 2 := by
    decide +kernel
  obtain ⟨reported, within, recovered⟩ := facts
  cases outcome : ended.1 with
  | error => rw [outcome] at reported; cases reported
  | ok report =>
      obtain ⟨_, _, isEnded⟩ := ended_of_execute (Prod.ext outcome rfl : ended = (.ok report, _))
      have read : ((traceFacts (ended.2.evidence.events.map storedRecord) []).providerFaults.map
          fun faults => faults.throttlesRecovered).getD 0 = 3 := by
        decide +kernel
      refine ⟨⟨report, rfl⟩, within, stores_storedRecord ended.2.evidence, fun reads => ?_⟩
      have same := reads.recovered
      rw [← crossed_events isEnded] at read
      rw [read, recovered] at same
      cases same

end AgentRank.Diagnostics.Traces
