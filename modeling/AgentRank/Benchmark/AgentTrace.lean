import AgentRank.Representation.JsonText

/-!
# The evidence of a model buyer

This module models the collecting half of `benchmark/agent_trace.py`: the events and the usage
rows that a worker records.  Every payload is kept small, and what a key calls a credential is
taken out of it.
-/

namespace AgentRank.Benchmark.Llm

open Constraints Representation Store Text

def maxEvents : Nat := 128
def maxPayloadBytes : Nat := 16384
def maxTextLength : Nat := 2000

inductive TraceEventType
  | modelRequest
  | modelResponse
  | toolCall
  | toolResult
  | toolError
  | agentFinal
  | agentAbort
  | providerError
deriving DecidableEq

def TraceEventType.value : TraceEventType → String
  | modelRequest => "MODEL_REQUEST"
  | modelResponse => "MODEL_RESPONSE"
  | toolCall => "TOOL_CALL"
  | toolResult => "TOOL_RESULT"
  | toolError => "TOOL_ERROR"
  | agentFinal => "AGENT_FINAL"
  | agentAbort => "AGENT_ABORT"
  | providerError => "PROVIDER_ERROR"

/-- `(authorization|api.?key|token|secret|password)`, in any case. -/
def secretPart : Pattern :=
  .oneOf
    [wordIgnoringCase "authorization",
      .sequence
        [wordIgnoringCase "api", .many (fun char => char != '\n') 0 (some 1),
          wordIgnoringCase "key"],
      wordIgnoringCase "token", wordIgnoringCase "secret", wordIgnoringCase "password"]

/-- Whether a key names a credential. -/
def isSecret (key : String) : Bool :=
  (@search asciiTables secretPart key).isSome

/-- `text[:length]`. -/
def truncated (length : Nat) (text : String) : String :=
  String.ofList (text.toList.take length)

def maxItems : Nat := 100
def maxKeyCharacters : Nat := 128

mutual

/-- `_sanitize`, of a value whose key names no credential. -/
def sanitize : Json → Json
  | .null => .null
  | .scalar (.string text) => Payload.text (truncated maxTextLength text)
  | .scalar value => .scalar value
  | .array items => .array (sanitizeItems maxItems items)
  | .object fields => .object (dictOf (sanitizeFields fields))

def sanitizeItems : Nat → List Json → List Json
  | 0, _ => []
  | _, [] => []
  | most + 1, item :: rest => sanitize item :: sanitizeItems most rest

def sanitizeFields : List (String × Json) → List (String × Json)
  | [] => []
  | (name, value) :: rest =>
      (truncated maxKeyCharacters name,
        if isSecret name then Payload.text "[redacted]" else sanitize value) :: sanitizeFields rest

end

/-- `_canonical`. -/
def canonicalText (value : Json) : List Char :=
  (write compact (sortKeys value)).getD []

/-- `safe_payload`.  The text is ASCII, so it has as many bytes as characters. -/
def safePayload (value : Json) : Json :=
  let sanitized :=
    match sanitize value with
    | .object fields => .object fields
    | other => .object [("value", other)]
  let encoded := canonicalText sanitized
  if encoded.length ≤ maxPayloadBytes then sanitized
  else
    .object
      [("truncated", .scalar (.boolean true)),
        ("sha256_length", Payload.number encoded.length),
        ("preview", Payload.text (String.ofList (encoded.take maxTextLength)))]

structure TraceEvent where
  eventType : TraceEventType
  payload : Json

structure ProviderUsage where
  invocationSequence : Nat
  traceSequence : Nat
  provider : String
  requestedModel : String
  actualModel : Option String
  providerRequestId : Option String
  providerLatencyMs : Option Nat
  usage : Option Json

structure AgentExecutionEvidence where
  events : List TraceEvent := []
  usages : List ProviderUsage := []

namespace AgentExecutionEvidence

/-- `add`.  Beyond the bound nothing is recorded. -/
def add (evidence : AgentExecutionEvidence) (eventType : TraceEventType) (payload : Json) :
    AgentExecutionEvidence :=
  if maxEvents ≤ evidence.events.length then evidence
  else
    { evidence with
      events := evidence.events ++ [{ eventType := eventType, payload := safePayload payload }] }

variable {evidence : AgentExecutionEvidence} {eventType : TraceEventType} {payload : Json}

theorem add_of_room (room : evidence.events.length < maxEvents) :
    (evidence.add eventType payload).events =
      evidence.events ++ [{ eventType := eventType, payload := safePayload payload }] := by
  rw [add, if_neg (by omega)]

theorem add_of_full (full : maxEvents ≤ evidence.events.length) :
    evidence.add eventType payload = evidence := by
  rw [add, if_pos full]

@[simp]
theorem usages_add : (evidence.add eventType payload).usages = evidence.usages := by
  unfold add
  split <;> rfl

end AgentExecutionEvidence
end AgentRank.Benchmark.Llm
