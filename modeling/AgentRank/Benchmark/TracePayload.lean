import AgentRank.Benchmark.AgentTrace
import AgentRank.Benchmark.DefinitionPayload

/-!
# The evidence of a model buyer as JSON

This module models the other half of `benchmark/agent_trace.py`: evidence is written as a
document, and a document is read back within the bounds of evidence.  Payloads pass
`safe_payload` on the way out, and those of events pass it again on the way in.
-/

namespace AgentRank.Benchmark.Llm

open Constraints Relational Representation Store

def TraceEvent.fields (event : TraceEvent) : List (String × Json) :=
  [("event_type", Payload.text event.eventType.value), ("payload", safePayload event.payload)]

def TraceEvent.toPayload (event : TraceEvent) : Json :=
  .object event.fields

def latencyPayload : Option Nat → Json
  | none => .null
  | some value => Payload.number value

/-- `self.usage or {}`. -/
def ProviderUsage.stated (usage : ProviderUsage) : Json :=
  usage.usage.getD (.object [])

def ProviderUsage.fields (usage : ProviderUsage) : List (String × Json) :=
  [("invocation_sequence", Payload.number usage.invocationSequence),
    ("trace_sequence", Payload.number usage.traceSequence),
    ("provider", Payload.text usage.provider),
    ("requested_model", Payload.text usage.requestedModel),
    ("actual_model", Payload.optionalText usage.actualModel),
    ("provider_request_id", Payload.optionalText usage.providerRequestId),
    ("provider_latency_ms", latencyPayload usage.providerLatencyMs),
    ("usage", safePayload usage.stated)]

def ProviderUsage.toPayload (usage : ProviderUsage) : Json :=
  .object usage.fields

def AgentExecutionEvidence.toPayload (evidence : AgentExecutionEvidence) : Json :=
  .object
    [("events", .array (evidence.events.map TraceEvent.toPayload)),
      ("usages", .array (evidence.usages.map ProviderUsage.toPayload))]

/-! ## Reading -/

def traceEventTypes : List TraceEventType :=
  [.modelRequest, .modelResponse, .toolCall, .toolResult, .toolError, .agentFinal, .agentAbort,
    .providerError]

def isObject : Json → Bool
  | .object _ => true
  | _ => false

def eventTypeOf : Json → Except ReadError TraceEventType
  | .scalar (.string text) =>
      match traceEventTypes.find? fun eventType => eventType.value = text with
      | some eventType => .ok eventType
      | none => refuse "agent trace event types are invalid" none
  | value =>
      if isHashable value then refuse "agent trace event types are invalid" none
      else .error .typeError

/-- One event of a document. -/
def eventFrom (raw : Json) : Except ReadError TraceEvent :=
  match raw with
  | .object fields =>
      if hasExactly fields ["event_type", "payload"] then do
        let eventType ← eventTypeOf (← itemOf raw "event_type")
        let payload ← itemOf raw "payload"
        if isObject payload then
          return { eventType := eventType, payload := safePayload payload }
        else refuse "agent trace event types are invalid" none
      else refuse "agent trace event is invalid" none
  | _ => refuse "agent trace event is invalid" none

/-- An `int`, as which a boolean passes. -/
def integerOf : Json → Option Int
  | .scalar (.number (.finite value)) => if value.den = 1 then some value.num else none
  | .scalar (.boolean value) => some (if value then 1 else 0)
  | _ => none

/-- A number in a sequence, counted from one. -/
def sequenceOf (value : Json) : Except ReadError Nat :=
  match integerOf value with
  | some number =>
      if number < 1 then refuse "agent provider usage sequence is invalid" none
      else .ok number.toNat
  | none => refuse "agent provider usage sequence is invalid" none

def identityOf (most : Nat) : Json → Except ReadError String
  | .scalar (.string text) =>
      if most < text.length then refuse "agent provider identity is invalid" none else .ok text
  | _ => refuse "agent provider identity is invalid" none

def latencyOf : Json → Except ReadError (Option Nat)
  | .null => .ok none
  | value =>
      match integerOf value with
      | some number =>
          if number < 0 then refuse "agent provider latency is invalid" none
          else .ok (some number.toNat)
      | none => refuse "agent provider latency is invalid" none

def usageOf : Json → Except ReadError (Option Json)
  | .null => .ok none
  | .object fields => .ok (some (.object fields))
  | _ => refuse "agent provider usage payload is invalid" none

/-- A text that may be absent.  The source takes any value, of which a usage row is a text. -/
def optionalTextOf : Json → Except ReadError (Option String)
  | .null => .ok none
  | .scalar (.string text) => .ok (some text)
  | _ => .error .typeError

def usageFields : List String :=
  ["invocation_sequence", "trace_sequence", "provider", "requested_model", "actual_model",
    "provider_request_id", "provider_latency_ms", "usage"]

def maxProviderLength : Nat := 64
def maxModelLength : Nat := 128

/-- One usage row of a document. -/
def usageFrom (raw : Json) : Except ReadError ProviderUsage :=
  match raw with
  | .object fields =>
      if hasExactly fields usageFields then do
        let invocationSequence ← sequenceOf (← itemOf raw "invocation_sequence")
        let traceSequence ← sequenceOf (← itemOf raw "trace_sequence")
        let provider ← identityOf maxProviderLength (← itemOf raw "provider")
        let requestedModel ← identityOf maxModelLength (← itemOf raw "requested_model")
        let usage ← usageOf (← itemOf raw "usage")
        let latency ← latencyOf (← itemOf raw "provider_latency_ms")
        let actualModel ← optionalTextOf (← itemOf raw "actual_model")
        let requestId ← optionalTextOf (← itemOf raw "provider_request_id")
        return {
          invocationSequence := invocationSequence
          traceSequence := traceSequence
          provider := provider
          requestedModel := requestedModel
          actualModel := actualModel
          providerRequestId := requestId
          providerLatencyMs := latency
          usage := usage }
      else refuse "agent provider usage is invalid" none
  | _ => refuse "agent provider usage is invalid" none

/-- A usage row names a response among the events. -/
def namesResponse (events : List TraceEvent) (usage : ProviderUsage) : Bool :=
  (events[usage.traceSequence - 1]?).any fun event => decide (event.eventType = .modelResponse)

def AgentExecutionEvidence.fromPayload (payload : Json) :
    Except ReadError AgentExecutionEvidence :=
  match payload with
  | .object fields =>
      if hasExactly fields ["events", "usages"] then do
        match ← itemOf payload "events", ← itemOf payload "usages" with
        | .array rawEvents, .array rawUsages =>
            if maxEvents < rawEvents.length ∨ maxEvents < rawUsages.length then
              refuse "agent evidence exceeds its bound" none
            else
              let events ← rawEvents.mapM eventFrom
              let usages ← rawUsages.mapM usageFrom
              if usages.any fun usage => decide (events.length < usage.traceSequence) then
                refuse "agent usage does not name an event" none
              else if usages.all (namesResponse events) then
                return { events := events, usages := usages }
              else refuse "agent usage must name a model response" none
        | _, _ => refuse "agent evidence lists are invalid" none
      else refuse "agent evidence has invalid fields" none
  | _ => refuse "agent evidence has invalid fields" none

/-! ## What crosses -/

/-- An event as it comes out on the other side. -/
def TraceEvent.crossed (event : TraceEvent) : TraceEvent :=
  { event with payload := safePayload (safePayload event.payload) }

/-- A usage row as it comes out on the other side. -/
def ProviderUsage.crossed (usage : ProviderUsage) : ProviderUsage :=
  { usage with usage := some (safePayload usage.stated) }

/-- A usage row within the bounds of one. -/
structure ProviderUsage.IsBounded (usage : ProviderUsage) : Prop where
  invocation : 1 ≤ usage.invocationSequence
  trace : 1 ≤ usage.traceSequence
  provider : usage.provider.length ≤ maxProviderLength
  model : usage.requestedModel.length ≤ maxModelLength

/-- Evidence within the bounds of evidence. -/
structure AgentExecutionEvidence.IsValid (evidence : AgentExecutionEvidence) : Prop where
  eventsBounded : evidence.events.length ≤ maxEvents
  usagesBounded : evidence.usages.length ≤ maxEvents
  rowsBounded : ∀ usage ∈ evidence.usages, usage.IsBounded
  rowsNamed : ∀ usage ∈ evidence.usages, namesResponse evidence.events usage = true

theorem hasExactly_of_keys {fields : List (String × Json)} {names : List String}
    (keys : fields.map Prod.fst = names) : hasExactly fields names = true := by
  rw [hasExactly, keys]
  exact decide_eq_true (List.Perm.refl _)

theorem isObject_safePayload (value : Json) : isObject (safePayload value) = true := by
  unfold safePayload
  dsimp only
  split
  · split <;> rfl
  · split <;> rfl

theorem eventTypeOf_value (eventType : TraceEventType) :
    eventTypeOf (Payload.text eventType.value) = .ok eventType := by
  cases eventType <;> rfl

theorem eventFrom_toPayload (event : TraceEvent) :
    eventFrom event.toPayload = .ok event.crossed := by
  have exactly : hasExactly event.fields ["event_type", "payload"] = true :=
    hasExactly_of_keys rfl
  rw [TraceEvent.toPayload, eventFrom]
  simp only [exactly]
  change (do
    let eventType ← eventTypeOf (Payload.text event.eventType.value)
    if isObject (safePayload event.payload) then
      return TraceEvent.mk eventType (safePayload (safePayload event.payload))
    else refuse "agent trace event types are invalid" none) = _
  rw [eventTypeOf_value]
  exact if_pos (isObject_safePayload event.payload)

/-- A number is a place in a sequence from one on. -/
theorem sequenceOf_number_eq_ok_iff {value place : Nat} :
    sequenceOf (Payload.number value) = .ok place ↔ 1 ≤ value ∧ place = value := by
  have number : integerOf (Payload.number value) = some (value : Int) := rfl
  rw [sequenceOf, number]
  dsimp only
  split
  · rename_i below
    constructor
    · intro isOk
      cases isOk
    · intro held
      omega
  · rename_i notBelow
    rw [Int.toNat_natCast, Except.ok.injEq]
    constructor
    · intro same
      exact ⟨by omega, same.symm⟩
    · intro held
      exact held.2.symm

theorem identityOf_text_eq_ok_iff {most : Nat} {text identity : String} :
    identityOf most (Payload.text text) = .ok identity ↔ text.length ≤ most ∧ identity = text := by
  rw [Payload.text, identityOf]
  split
  · rename_i above
    constructor
    · intro isOk
      cases isOk
    · intro held
      omega
  · rename_i notOver
    rw [Except.ok.injEq]
    constructor
    · intro same
      exact ⟨Nat.le_of_not_lt notOver, same.symm⟩
    · intro held
      exact held.2.symm

theorem latencyOf_payload (latency : Option Nat) :
    latencyOf (latencyPayload latency) = .ok latency := by
  cases latency with
  | none => rfl
  | some value =>
      have number : integerOf (Payload.number value) = some (value : Int) := rfl
      have notNegative : ¬(value : Int) < 0 := by omega
      rw [latencyPayload, latencyOf, number]
      · dsimp only
        rw [if_neg notNegative, Int.toNat_natCast]
      · rintro ⟨⟩

theorem optionalTextOf_payload (text : Option String) :
    optionalTextOf (Payload.optionalText text) = .ok text := by
  cases text <;> rfl

theorem usageOf_object {value : Json} (object : isObject value = true) :
    usageOf value = .ok (some value) := by
  cases value with
  | object => rfl
  | null | scalar | array => cases object

/-- A usage row is read where it is within its bounds, and what is read is what crosses. -/
theorem usageFrom_toPayload_eq_ok_iff {usage read : ProviderUsage} :
    usageFrom usage.toPayload = .ok read ↔ usage.IsBounded ∧ read = usage.crossed := by
  have isUsage := usageOf_object (isObject_safePayload usage.stated)
  have exactly : hasExactly usage.fields usageFields = true := hasExactly_of_keys rfl
  rw [ProviderUsage.toPayload, usageFrom]
  simp only [exactly]
  change (do
    let invocationSequence ← sequenceOf (Payload.number usage.invocationSequence)
    let traceSequence ← sequenceOf (Payload.number usage.traceSequence)
    let provider ← identityOf maxProviderLength (Payload.text usage.provider)
    let requestedModel ← identityOf maxModelLength (Payload.text usage.requestedModel)
    let stated ← usageOf (safePayload usage.stated)
    let latency ← latencyOf (latencyPayload usage.providerLatencyMs)
    let actualModel ← optionalTextOf (Payload.optionalText usage.actualModel)
    let requestId ← optionalTextOf (Payload.optionalText usage.providerRequestId)
    return ProviderUsage.mk invocationSequence traceSequence provider requestedModel
      actualModel requestId latency stated) = Except.ok read ↔ _
  rw [isUsage, latencyOf_payload, optionalTextOf_payload, optionalTextOf_payload]
  simp only [except_bind_eq_ok_iff, sequenceOf_number_eq_ok_iff, identityOf_text_eq_ok_iff,
    Except.ok.injEq, exists_eq_left']
  constructor
  · rintro ⟨_, ⟨invocation, rfl⟩, _, ⟨trace, rfl⟩, _, ⟨provider, rfl⟩, _, ⟨model, rfl⟩, isRead⟩
    cases isRead
    exact ⟨⟨invocation, trace, provider, model⟩, rfl⟩
  · rintro ⟨bounded, rfl⟩
    exact ⟨_, ⟨bounded.invocation, rfl⟩, _, ⟨bounded.trace, rfl⟩, _, ⟨bounded.provider, rfl⟩, _,
      ⟨bounded.model, rfl⟩, rfl⟩

/-- Rows that are read one by one, where each is within its bounds. -/
theorem mapM_eq_ok_iff {α : Type} {read : Json → Except ReadError α} {written : α → Json}
    {isBounded : α → Prop} {crossed : α → α}
    (each : ∀ row result, read (written row) = .ok result ↔ isBounded row ∧ result = crossed row)
    {rows results : List α} :
    (rows.map written).mapM read = .ok results ↔
      (∀ row ∈ rows, isBounded row) ∧ results = rows.map crossed := by
  induction rows generalizing results with
  | nil => simp [pure, Except.pure, eq_comm]
  | cons row rest ih =>
      simp only [List.map_cons, List.mapM_cons, except_bind_eq_ok_iff, each, ih, List.forall_mem_cons]
      constructor
      · rintro ⟨_, ⟨bounded, rfl⟩, _, ⟨others, rfl⟩, isRead⟩
        cases isRead
        exact ⟨⟨bounded, others⟩, rfl⟩
      · rintro ⟨⟨bounded, others⟩, rfl⟩
        exact ⟨_, ⟨bounded, rfl⟩, _, ⟨others, rfl⟩, rfl⟩

/-- Evidence as it comes out on the other side. -/
def AgentExecutionEvidence.crossed (evidence : AgentExecutionEvidence) :
    AgentExecutionEvidence where
  events := evidence.events.map TraceEvent.crossed
  usages := evidence.usages.map ProviderUsage.crossed

theorem namesResponse_crossed (events : List TraceEvent) (usage : ProviderUsage) :
    namesResponse (events.map TraceEvent.crossed) usage.crossed = namesResponse events usage := by
  rw [namesResponse, namesResponse, List.getElem?_map, Option.any_map]
  rfl

/-- A row that names a response names an event. -/
theorem le_length_of_namesResponse {events : List TraceEvent} {usage : ProviderUsage}
    (bounded : usage.IsBounded) (named : namesResponse events usage = true) :
    usage.traceSequence ≤ events.length := by
  have trace := bounded.trace
  unfold namesResponse at named
  cases held : events[usage.traceSequence - 1]? with
  | none =>
      rw [held] at named
      cases named
  | some event =>
      obtain ⟨within, _⟩ := List.getElem?_eq_some_iff.mp held
      omega

/-- Valid evidence is read, and what is read is what crosses. -/
theorem fromPayload_toPayload_eq_ok_iff {evidence read : AgentExecutionEvidence} :
    AgentExecutionEvidence.fromPayload evidence.toPayload = .ok read ↔
      evidence.IsValid ∧ read = evidence.crossed := by
  have exactly : hasExactly
      [("events", .array (evidence.events.map TraceEvent.toPayload)),
        ("usages", .array (evidence.usages.map ProviderUsage.toPayload))]
      ["events", "usages"] = true := hasExactly_of_keys rfl
  have eventsRead : (evidence.events.map TraceEvent.toPayload).mapM eventFrom =
      .ok (evidence.events.map TraceEvent.crossed) := by
    refine (mapM_eq_ok_iff fun event result => ?_).mpr ⟨fun _ _ => trivial, rfl⟩
    rw [eventFrom_toPayload, Except.ok.injEq, eq_comm]
    exact (and_iff_right trivial).symm
  have usagesRead : ∀ {usages : List ProviderUsage},
      (evidence.usages.map ProviderUsage.toPayload).mapM usageFrom = .ok usages ↔
        (∀ usage ∈ evidence.usages, usage.IsBounded) ∧
          usages = evidence.usages.map ProviderUsage.crossed :=
    mapM_eq_ok_iff fun _ _ => usageFrom_toPayload_eq_ok_iff
  rw [AgentExecutionEvidence.toPayload, AgentExecutionEvidence.fromPayload]
  simp only [exactly]
  change (if maxEvents < (evidence.events.map TraceEvent.toPayload).length ∨
      maxEvents < (evidence.usages.map ProviderUsage.toPayload).length then
    refuse "agent evidence exceeds its bound" none
  else do
    let events ← (evidence.events.map TraceEvent.toPayload).mapM eventFrom
    let usages ← (evidence.usages.map ProviderUsage.toPayload).mapM usageFrom
    if usages.any fun usage => decide (events.length < usage.traceSequence) then
      refuse "agent usage does not name an event" none
    else if usages.all (namesResponse events) then
      return AgentExecutionEvidence.mk events usages
    else refuse "agent usage must name a model response" none) = Except.ok read ↔ _
  rw [List.length_map, List.length_map, eventsRead]
  split
  · rename_i above
    refine iff_of_false nofun ?_
    rintro ⟨valid, _⟩
    have events := valid.eventsBounded
    have usages := valid.usagesBounded
    omega
  · rename_i notOver
    change (do
      let usages ← (evidence.usages.map ProviderUsage.toPayload).mapM usageFrom
      if usages.any fun usage => decide
          ((evidence.events.map TraceEvent.crossed).length < usage.traceSequence) then
        refuse "agent usage does not name an event" none
      else if usages.all (namesResponse (evidence.events.map TraceEvent.crossed)) then
        return AgentExecutionEvidence.mk (evidence.events.map TraceEvent.crossed) usages
      else refuse "agent usage must name a model response" none) = Except.ok read ↔ _
    simp only [except_bind_eq_ok_iff, usagesRead]
    constructor
    · rintro ⟨_, ⟨bounded, rfl⟩, isRead⟩
      split at isRead
      · cases isRead
      · split at isRead
        · rename_i named
          cases isRead
          rw [List.all_map] at named
          refine ⟨⟨by omega, by omega, bounded, fun usage member => ?_⟩, rfl⟩
          have isNamed := List.all_eq_true.mp named usage member
          exact (namesResponse_crossed evidence.events usage).symm.trans isNamed
        · cases isRead
    · rintro ⟨valid, rfl⟩
      refine ⟨_, ⟨valid.rowsBounded, rfl⟩, ?_⟩
      have within : ¬((evidence.usages.map ProviderUsage.crossed).any fun usage => decide
          ((evidence.events.map TraceEvent.crossed).length < usage.traceSequence)) = true := by
        rw [List.any_map, List.any_eq_true]
        rintro ⟨usage, member, beyond⟩
        have named := le_length_of_namesResponse (valid.rowsBounded usage member)
          (valid.rowsNamed usage member)
        have above := of_decide_eq_true beyond
        rw [List.length_map] at above
        exact absurd named (Nat.not_le_of_lt above)
      have named : (evidence.usages.map ProviderUsage.crossed).all
          (namesResponse (evidence.events.map TraceEvent.crossed)) = true := by
        rw [List.all_map, List.all_eq_true]
        intro usage member
        exact (namesResponse_crossed evidence.events usage).trans (valid.rowsNamed usage member)
      rw [if_neg within, if_pos named]
      rfl

/-- An event or a row that crosses as it is. -/
def TraceEvent.IsKept (event : TraceEvent) : Prop :=
  safePayload (safePayload event.payload) = event.payload

def ProviderUsage.IsKept (usage : ProviderUsage) : Prop :=
  some (safePayload usage.stated) = usage.usage

/-- Evidence is read back as it was exactly where it is valid and all of it is kept. -/
theorem fromPayload_toPayload_self_iff {evidence : AgentExecutionEvidence} :
    AgentExecutionEvidence.fromPayload evidence.toPayload = .ok evidence ↔
      evidence.IsValid ∧ (∀ event ∈ evidence.events, event.IsKept) ∧
        ∀ usage ∈ evidence.usages, usage.IsKept := by
  have events : evidence.events = evidence.events.map TraceEvent.crossed ↔
      ∀ event ∈ evidence.events, event.IsKept := by
    conv_lhs => lhs; rw [← List.map_id evidence.events]
    rw [List.map_inj_left]
    refine forall₂_congr fun event _ => ?_
    obtain ⟨eventType, payload⟩ := event
    simp [TraceEvent.crossed, TraceEvent.IsKept, eq_comm]
  have usages : evidence.usages = evidence.usages.map ProviderUsage.crossed ↔
      ∀ usage ∈ evidence.usages, usage.IsKept := by
    conv_lhs => lhs; rw [← List.map_id evidence.usages]
    rw [List.map_inj_left]
    refine forall₂_congr fun usage _ => ?_
    obtain ⟨invocation, trace, provider, model, actual, request, latency, stated⟩ := usage
    simp [ProviderUsage.crossed, ProviderUsage.IsKept, eq_comm]
  rw [fromPayload_toPayload_eq_ok_iff, ← events, ← usages]
  refine and_congr_right fun _ => ?_
  obtain ⟨eventList, usageList⟩ := evidence
  exact AgentExecutionEvidence.mk.injEq _ _ _ _ ▸ Iff.rfl

mutual

theorem distinctKeys_sanitize : (value : Json) → DistinctKeys (sanitize value)
  | .null => .null
  | .scalar (.string _) => .scalar _
  | .scalar (.number _) => .scalar _
  | .scalar (.boolean _) => .scalar _
  | .array items => .array _ (distinctKeys_sanitizeItems maxItems items)
  | .object fields =>
      .object _ (dictOf_fields _).1 fun field member =>
        distinctKeys_sanitizeFields fields field ((dictOf_fields _).2 field member)

theorem distinctKeys_sanitizeItems (most : Nat) :
    (items : List Json) → ∀ item ∈ sanitizeItems most items, DistinctKeys item
  | [] => by cases most <;> simp [sanitizeItems]
  | first :: rest => by
      cases most with
      | zero => simp [sanitizeItems]
      | succ most =>
          intro item member
          rcases List.mem_cons.mp member with rfl | later
          · exact distinctKeys_sanitize first
          · exact distinctKeys_sanitizeItems most rest item later

theorem distinctKeys_sanitizeFields :
    (fields : List (String × Json)) → ∀ field ∈ sanitizeFields fields, DistinctKeys field.2
  | [] => by simp [sanitizeFields]
  | (name, value) :: rest => by
      intro field member
      rcases List.mem_cons.mp member with rfl | later
      · dsimp only
        split
        · exact .scalar _
        · exact distinctKeys_sanitize value
      · exact distinctKeys_sanitizeFields rest field later

end

theorem distinctKeys_safePayload (value : Json) : DistinctKeys (safePayload value) := by
  have cut : ∀ encoded : List Char, DistinctKeys (.object
      [("truncated", .scalar (.boolean true)), ("sha256_length", Payload.number encoded.length),
        ("preview", Payload.text (String.ofList (encoded.take maxTextLength)))]) := by
    intro encoded
    refine .object _ (by simp) fun field member => ?_
    simp only [List.mem_cons, List.not_mem_nil, or_false] at member
    rcases member with rfl | rfl | rfl <;> exact .scalar _
  have sanitized := distinctKeys_sanitize value
  unfold safePayload
  dsimp only
  split
  · rename_i fields fieldsEq
    split
    · rwa [fieldsEq] at sanitized
    · exact cut _
  · split
    · refine .object _ (by simp) fun field member => ?_
      rw [List.mem_singleton.mp member]
      exact sanitized
    · exact cut _

theorem distinctKeys_evidence (evidence : AgentExecutionEvidence) :
    DistinctKeys evidence.toPayload := by
  refine .object _ (by simp) fun field member => ?_
  simp only [List.mem_cons, List.not_mem_nil, or_false] at member
  rcases member with rfl | rfl
  · refine .array _ fun item inItems => ?_
    obtain ⟨event, _, rfl⟩ := List.mem_map.mp inItems
    refine .object _ (by simp [TraceEvent.fields]) fun field inFields => ?_
    simp only [TraceEvent.fields, List.mem_cons, List.not_mem_nil, or_false] at inFields
    rcases inFields with rfl | rfl
    · exact .scalar _
    · exact distinctKeys_safePayload _
  · refine .array _ fun item inItems => ?_
    obtain ⟨usage, _, rfl⟩ := List.mem_map.mp inItems
    have optional : ∀ text, DistinctKeys (Payload.optionalText text) := by
      intro text
      cases text with
      | none => exact .null
      | some value => exact .scalar _
    refine .object _ (by simp [ProviderUsage.fields]) fun field inFields => ?_
    simp only [ProviderUsage.fields, List.mem_cons, List.not_mem_nil, or_false] at inFields
    rcases inFields with rfl | rfl | rfl | rfl | rfl | rfl | rfl | rfl
    · exact .scalar _
    · exact .scalar _
    · exact .scalar _
    · exact .scalar _
    · exact optional _
    · exact optional _
    · cases usage.providerLatencyMs with
      | none => exact .null
      | some value => exact .scalar _
    · exact distinctKeys_safePayload _

end AgentRank.Benchmark.Llm
