import AgentRank.Diagnostics.Mission
import AgentRank.Relational.Ordering

/-!
# The facts of a trace

This module models `diagnostics/traces.py`.  The events of a mission are read in sequence order.
Which failures of the provider were survived, and which one ended the mission, is told by the
places of the events.
-/

namespace AgentRank.Diagnostics.Traces

open Constraints Relational

/-- A stored event as this module reads it. -/
structure TraceEventRecord where
  identifier : Option String
  eventType : String
  payload : List (String × Json)

/-- A stored invocation of the provider. -/
structure ProviderUsageRecord where
  identifier : Option String
  requestedModel : Option String
  actualModel : Option String

def abortEvent : String := "AGENT_ABORT"
def finalEvent : String := "AGENT_FINAL"
def providerErrorEvent : String := "PROVIDER_ERROR"
def toolCallEvent : String := "TOOL_CALL"
def toolErrorEvent : String := "TOOL_ERROR"
def modelRequestEvent : String := "MODEL_REQUEST"

/-- The one reason for an abort that is a failure of the provider. -/
def providerUnavailable : String := "provider_unavailable"

def throttledKind : String := "ProviderThrottledError"

structure ProviderFaultFacts extends Diagnostics.ProviderFaultFacts where
  terminatingDetail : Option String

structure TraceFacts where
  interactions : InteractionSummary
  providerFaults : Option ProviderFaultFacts
  requestedModel : Option String
  resolvedModels : List String
  finalReason : Option String
  abortReason : Option String

/-- `payload.get(name)`. -/
def TraceEventRecord.get (event : TraceEventRecord) (name : String) : Json :=
  (event.payload.lookup name).getD .null

/-- A text that is stated. -/
def statedText : Json → Option String
  | .scalar (.string value) => if value = "" then none else some value
  | _ => none

def maxDetailCharacters : Nat := 200

/-- `text[:200]`, of a text that is stated. -/
def bounded (value : Json) : Option String :=
  (statedText value).map fun text => String.ofList (text.toList.take maxDetailCharacters)

def TraceEventRecord.isOf (kind : String) (event : TraceEventRecord) : Bool :=
  event.eventType == kind

/-- `_last_field`. -/
def lastField (events : List TraceEventRecord) (kind name : String) : Option String :=
  (events.reverse.find? (TraceEventRecord.isOf kind)).bind fun event => statedText (event.get name)

def TraceEventRecord.isThrottle (event : TraceEventRecord) : Bool :=
  match event.get "kind" with
  | .scalar (.string kind) => kind == throttledKind
  | _ => false

/-- What the failures of the provider say, given why the mission was aborted. -/
def providerFaultsOf (abortReason : Option String) (providerErrors : List TraceEventRecord) :
    Option ProviderFaultFacts :=
  if abortReason = some providerUnavailable then
    some
      { outageTerminatedMission := true
        terminatingKind := providerErrors.getLast?.bind fun last => statedText (last.get "kind")
        terminatingEventId := providerErrors.getLast?.bind TraceEventRecord.identifier
        throttlesRecovered := (providerErrors.dropLast.filter TraceEventRecord.isThrottle).length
        terminatingDetail := providerErrors.getLast?.bind fun last => bounded (last.get "detail") }
  else if providerErrors = [] then none
  else
    some
      { outageTerminatedMission := false
        terminatingKind := none
        terminatingEventId := none
        throttlesRecovered := (providerErrors.filter TraceEventRecord.isThrottle).length
        terminatingDetail := none }

def statedModels (models : List (Option String)) : List String :=
  ((models.filterMap id).filter fun model => model ≠ "").dedup

/-- `_single_models`. -/
def singleModels (models : List (Option String)) : List String :=
  (KeyOrder.natural String).sortBy id (statedModels models)

/-- `_single_model`. -/
def singleModel (models : List (Option String)) : Option String :=
  match singleModels models with
  | [model] => some model
  | _ => none

def countOf (kind : String) (events : List TraceEventRecord) : Nat :=
  (events.filter (TraceEventRecord.isOf kind)).length

def traceFacts (events : List TraceEventRecord) (usages : List ProviderUsageRecord := []) :
    TraceFacts where
  interactions :=
    { modelInvocations := countOf modelRequestEvent events
      toolCalls := countOf toolCallEvent events
      toolErrors := countOf toolErrorEvent events }
  providerFaults := providerFaultsOf (lastField events abortEvent "reason")
    (events.filter (TraceEventRecord.isOf providerErrorEvent))
  requestedModel := singleModel (usages.map ProviderUsageRecord.requestedModel)
  resolvedModels := singleModels (usages.map ProviderUsageRecord.actualModel)
  finalReason := lastField events finalEvent "reason"
  abortReason := lastField events abortEvent "reason"

section Ends

variable {events : List TraceEventRecord} {event : TraceEventRecord} {kind name : String}

/-- The last event of its kind states the field. -/
theorem lastField_append_of (isKind : event.isOf kind = true) :
    lastField (events ++ [event]) kind name = statedText (event.get name) := by
  rw [lastField, List.reverse_append, List.reverse_singleton, List.singleton_append,
    List.find?_cons_of_pos isKind]
  rfl

theorem lastField_append_other (isOther : event.isOf kind = false) :
    lastField (events ++ [event]) kind name = lastField events kind name := by
  rw [lastField, List.reverse_append, List.reverse_singleton, List.singleton_append,
    List.find?_cons_of_neg (by rw [isOther]; exact Bool.false_ne_true), lastField]

/-- Where no event is of a kind, none states a field. -/
theorem lastField_of_none (none : ∀ event ∈ events, event.isOf kind = false) :
    lastField events kind name = Option.none := by
  have absent : events.reverse.find? (TraceEventRecord.isOf kind) = Option.none := by
    rw [List.find?_eq_none]
    intro event member isKind
    rw [none event (List.mem_reverse.mp member)] at isKind
    cases isKind
  rw [lastField, absent]
  rfl

end Ends
end AgentRank.Diagnostics.Traces
