import AgentRank.Benchmark.LlmRequests
import AgentRank.Benchmark.RunLog
import AgentRank.Benchmark.SafePayload
import AgentRank.Benchmark.TracePayload

/-!
# Whether the evidence of a model buyer survives the worker boundary

A worker writes its evidence into a document, and the side that trusts no worker reads it.  The
two agree on a run whose events all found room, and whose usage objects pass `safe_payload` as
they are.  On other runs they do not: the event that ended the loop is dropped, or a usage object
is read back changed.
-/

namespace AgentRank.Benchmark.Llm

open Constraints Store Text

def supportedProviders : List String :=
  ["openai-responses", "google-gemini"]

inductive ReasoningEffort
  | low
  | medium
  | high
deriving DecidableEq

/-- The configurations that `AgentConfiguration` accepts. -/
structure AgentConfiguration extends AgentLimits where
  maxOutputTokens : Nat := 2048
  reasoningEffort : ReasoningEffort := .medium
  providerSupported : provider ∈ supportedProviders
  modelStated : isBlank requestedModel = false
  modelBounded : requestedModel.length ≤ maxModelLength
  tokensPositive : 1 ≤ maxOutputTokens

theorem AgentConfiguration.providerBounded (configuration : AgentConfiguration) :
    configuration.provider.length ≤ maxProviderLength := by
  have supported := configuration.providerSupported
  simp only [supportedProviders, List.mem_cons, List.not_mem_nil, or_false] at supported
  rcases supported with isOpenai | isGemini
  · rw [isOpenai]
    decide
  · rw [isGemini]
    decide

/-- The payloads of the document that evidence is written into. -/
def writtenPayloads (evidence : AgentExecutionEvidence) : List Json :=
  evidence.events.map (fun event => safePayload event.payload) ++
    evidence.usages.map fun usage => safePayload usage.stated

/-- The reader accepts the evidence and has what the worker had, which is bounded and names no
credential, and in which rows name their responses and the end is told. -/
structure EvidenceSurvives (limits : AgentLimits) (evidence : AgentExecutionEvidence) : Prop where
  decodes : AgentExecutionEvidence.fromPayload evidence.toPayload = .ok evidence
  named : ∀ row ∈ evidence.usages, ∃ response, RowOf limits row response ∧
    NamesEvent evidence.events row response
  ended : ∃ event ∈ evidence.events, event.eventType.endsLoop = true
  bounded : ∀ payload ∈ writtenPayloads evidence,
    (canonicalText payload).length ≤ maxPayloadBytes
  redacted : ∀ payload ∈ writtenPayloads evidence, IsRedacted payload

/-- A usage object that passes `safe_payload` as it is. -/
def ProviderResponse.KeepsUsage (response : ProviderResponse) : Prop :=
  ∃ usage, response.usage = some usage ∧ safePayload usage = usage

/-! ## Runs that have ended -/

/-- What a run that has ended leaves: a log of events, behind which one ended it. -/
structure Ended (limits : AgentLimits) (around : Surroundings) (log : List TraceEvent)
    (ending : TraceEvent) (state : BuyerState) : Prop where
  counted : state.added = log.length + 1
  kept : state.evidence.events = (log ++ [ending]).take maxEvents
  goesOn : ∀ event ∈ log, event.eventType.endsLoop = false
  ends : ending.eventType.endsLoop = true
  passed : ∀ event ∈ log ++ [ending], ∃ value, event.payload = safePayload value
  rows : List.Forall₂ (RowOf limits) state.evidence.usages (responsesOf (outcomes around state))
  named : log.length ≤ maxEvents →
    List.Forall₂ (NamesEvent log) state.evidence.usages (responsesOf (outcomes around state))

section Ends

variable {limits : AgentLimits} {around : Surroundings} {log : List TraceEvent}
  {ending : TraceEvent} {state last : BuyerState}

/-- Behind what a log tells, one event ends the run. -/
theorem ended_of_logs (logs : Logs limits around [] log state) {eventType : TraceEventType}
    (ends : eventType.endsLoop = true) (fields : List (String × Json)) :
    Ended limits around log (recordOf eventType fields) (state.add eventType fields) := by
  obtain ⟨recorded, all, made, named⟩ := logs.rows
  rw [List.append_nil] at all
  have usages : (state.add eventType fields).evidence.usages = state.evidence.usages :=
    AgentExecutionEvidence.usages_add
  constructor
  · rw [← logs.counted]
    rfl
  · exact logs.events_add
  · exact logs.goesOn
  · exact ends
  · exact passed_append logs.passed
  · rw [usages, outcomes_add, ← all]
    exact made
  · rw [usages, outcomes_add, ← all]
    exact named

/-- A failure of the provider is noted once more before the run ends. -/
theorem ended_of_concludes (concludes : Concludes limits around log last state) :
    ∃ whole ending, Ended limits around whole ending state := by
  cases concludes with
  | plain eventType reason turn tracks ends known =>
      exact ⟨log, _, ended_of_logs tracks.toLogs ends (endFields reason turn)⟩
  | unavailable raised tracks =>
      have noted := tracks.toLogs.note .providerError (errorFields last.turns raised) rfl
      exact ⟨_, _, ended_of_logs noted rfl _⟩

/-- The event that ended the run is recorded where every event found room. -/
theorem Ended.recorded_iff (ended : Ended limits around log ending state) :
    (∃ event ∈ state.evidence.events, event.eventType.endsLoop = true) ↔
      state.added ≤ maxEvents := by
  rw [ended.kept, ended.counted]
  constructor
  · rintro ⟨event, member, ends⟩
    by_contra above
    have full : maxEvents ≤ log.length := by omega
    rw [List.take_append_of_le_length full] at member
    rw [ended.goesOn event (List.mem_of_mem_take member)] at ends
    cases ends
  · intro within
    have all : (log ++ [ending]).take maxEvents = log ++ [ending] := by
      apply List.take_of_length_le
      rw [List.length_append, List.length_singleton]
      exact within
    rw [all]
    exact ⟨ending, List.mem_append_right log (List.mem_singleton_self ending), ended.ends⟩

theorem Ended.passed_events (ended : Ended limits around log ending state) :
    ∀ event ∈ state.evidence.events, ∃ value, event.payload = safePayload value := by
  intro event member
  rw [ended.kept] at member
  exact ended.passed event (List.mem_of_mem_take member)

/-- The whole log is kept where every event found room. -/
theorem Ended.events_of_room (ended : Ended limits around log ending state)
    (within : state.added ≤ maxEvents) : state.evidence.events = log ++ [ending] := by
  rw [ended.kept, List.take_of_length_le]
  rw [List.length_append, List.length_singleton, ← ended.counted]
  exact within

/-- Rows name the events of their responses where every event found room. -/
theorem Ended.named_rows (ended : Ended limits around log ending state)
    (within : state.added ≤ maxEvents) :
    ∀ row ∈ state.evidence.usages, ∃ response, RowOf limits row response ∧
      NamesEvent state.evidence.events row response := by
  have room : log.length + 1 ≤ maxEvents := ended.counted ▸ within
  have all := ended.events_of_room within
  have named := ended.named (Nat.le_of_succ_le room)
  have both : List.Forall₂ (fun row response => RowOf limits row response ∧
      NamesEvent state.evidence.events row response) state.evidence.usages
        (responsesOf (outcomes around state)) := by
    rw [all]
    exact List.Forall₂.mp (fun _ _ made names => ⟨made, names.append [ending]⟩) ended.rows named
  intro row member
  obtain ⟨response, _, holds⟩ := exists_right_of_forall₂ both member
  exact ⟨response, holds⟩

/-- Every payload of the document has passed `safe_payload`. -/
theorem clean_writtenPayloads {evidence : AgentExecutionEvidence} :
    ∀ payload ∈ writtenPayloads evidence,
      Clean payload ∧ (canonicalText payload).length ≤ maxPayloadBytes := by
  intro payload member
  rcases List.mem_append.mp member with isEvent | isUsage
  · obtain ⟨event, _, rfl⟩ := List.mem_map.mp isEvent
    exact ⟨clean_safePayload _, length_safePayload _⟩
  · obtain ⟨usage, _, rfl⟩ := List.mem_map.mp isUsage
    exact ⟨clean_safePayload _, length_safePayload _⟩

/-- A usage row crosses as it is where the object of its response does. -/
theorem RowOf.isKept_iff {row : ProviderUsage} {response : ProviderResponse}
    (made : RowOf limits row response) : row.IsKept ↔ response.KeepsUsage := by
  rw [ProviderUsage.IsKept, ProviderUsage.stated, made.usage, ProviderResponse.KeepsUsage]
  cases response.usage with
  | none => simp
  | some usage => simp

end Ends

/-! ## Executions -/

section Executions

variable [ArgumentReading] [ItemReading] [NestingLimit]

/-- The evidence of a run that returned a report survives exactly where every event found room
and every usage object of the provider passes as it is. -/
theorem evidenceSurvives_iff (configuration : AgentConfiguration) (granted : Nat)
    (around : Surroundings) (view : BuyerDiscoveryView) (mandateId merchantId : Uuid)
    (missionInput : Json) {report : ExecutorReport} {final : BuyerState}
    (ran : execute configuration.toAgentLimits granted around view mandateId merchantId
      missionInput = (.ok report, final)) :
    EvidenceSurvives configuration.toAgentLimits final.evidence ↔
      final.added ≤ maxEvents ∧
        ∀ response ∈ responsesOf (outcomes around final), response.KeepsUsage := by
  obtain ⟨_, _, concludes⟩ := concludes_execute ran
  obtain ⟨log, ending, ended⟩ := ended_of_concludes concludes
  have reached := reaches_execute configuration.toAgentLimits granted around view mandateId
    merchantId missionInput
  rw [ran] at reached
  have accounted : Accounted configuration.toAgentLimits granted final :=
    reached.keeps configuration.toAgentLimits granted around view mandateId accounted_of_move
      (accounted_initial [missionInput])
  have usagesKept : (∀ row ∈ final.evidence.usages, row.IsKept) ↔
      ∀ response ∈ responsesOf (outcomes around final), response.KeepsUsage := by
    constructor
    · intro kept response member
      obtain ⟨row, isRow, made⟩ := exists_left_of_forall₂ ended.rows member
      exact made.isKept_iff.mp (kept row isRow)
    · intro keeps row member
      obtain ⟨response, isResponse, made⟩ := exists_right_of_forall₂ ended.rows member
      exact made.isKept_iff.mpr (keeps response isResponse)
  constructor
  · intro survives
    obtain ⟨_, _, kept⟩ := fromPayload_toPayload_self_iff.mp survives.decodes
    exact ⟨ended.recorded_iff.mp survives.ended, usagesKept.mp kept⟩
  · rintro ⟨within, keeps⟩
    have named := ended.named_rows within
    have places := accounted.responses within
    have recorded := accounted.recorded
    have fewer : final.evidence.usages.length ≤ final.evidence.events.length := by
      have lengths := congrArg List.length places
      rw [List.length_map, responsePlaces, List.length_map] at lengths
      rw [← lengths, ← @List.length_zipIdx _ final.evidence.events 1]
      exact List.length_filter_le _ _
    have valid : final.evidence.IsValid := by
      constructor
      · omega
      · omega
      · intro row member
        obtain ⟨response, made, names⟩ := named row member
        constructor
        · exact made.invocation
        · exact names.1
        · rw [made.provider]
          exact configuration.providerBounded
        · rw [made.requestedModel]
          exact configuration.modelBounded
      · intro row member
        obtain ⟨response, made, names⟩ := named row member
        rw [namesResponse, names.2]
        rfl
    constructor
    · refine fromPayload_toPayload_self_iff.mpr ⟨valid, ?_, usagesKept.mpr keeps⟩
      intro event member
      obtain ⟨value, passed⟩ := ended.passed_events event member
      rw [TraceEvent.IsKept, passed, safePayload_safePayload, safePayload_safePayload]
    · exact named
    · exact ended.recorded_iff.mpr within
    · exact fun payload member => (clean_writtenPayloads payload member).2
    · exact fun payload member => (clean_writtenPayloads payload member).1.isRedacted

end Executions

/-- The configuration of one turn, as it is accepted. -/
def mediumEffort : AgentConfiguration :=
  { oneTurn with
    providerSupported := by decide
    modelStated := by decide
    modelBounded := by decide
    tokensPositive := by decide }

/-- A provider that answers with a refusal, and with a usage object. -/
def refusingProvider (usage : Json) : Surroundings where
  clock _ := 0
  provider _ := .ok
    { responseId := some "resp_1"
      model := some "gpt-5.6-terra"
      refusal := some "no"
      usage := some usage }
  merchant _ := refusingSurface

/-- A usage object without a number of tokens. -/
def requestUsage : Json :=
  .object [("requests", Payload.number 1)]

theorem safePayload_requestUsage : safePayload requestUsage = requestUsage := by
  have named : isSecret "requests" = false := by decide +kernel
  apply safePayload_of_clean
  · apply Clean.object
    · simp
    · simp only [List.forall_mem_singleton]
      decide
    · simp [named]
    · exact List.forall_mem_singleton.mpr (Clean.number _)
  · decide +kernel

theorem request_usage_kept :
    let _ := noArguments
    let _ := noItems
    let _ := noLimit
    ∃ report final, execute mediumEffort.toAgentLimits 6 (refusingProvider requestUsage)
        { kind := .storefront } 1 2 .null = (.ok report, final) ∧
      EvidenceSurvives mediumEffort.toAgentLimits final.evidence := by
  intro _ _ _
  generalize isRun : execute mediumEffort.toAgentLimits 6 (refusingProvider requestUsage)
    { kind := .storefront } 1 2 .null = run
  have facts : (execute mediumEffort.toAgentLimits 6 (refusingProvider requestUsage)
        { kind := .storefront } 1 2 .null).1.toOption.isSome = true ∧
      (execute mediumEffort.toAgentLimits 6 (refusingProvider requestUsage)
        { kind := .storefront } 1 2 .null).2.added ≤ maxEvents ∧
      (execute mediumEffort.toAgentLimits 6 (refusingProvider requestUsage)
        { kind := .storefront } 1 2 .null).2.requests.length = 1 := by
    decide +kernel
  rw [isRun] at facts
  obtain ⟨outcome, final⟩ := run
  obtain ⟨reported, within, requests⟩ := facts
  cases outcome with
  | error => cases reported
  | ok report =>
      refine ⟨report, final, rfl, (evidenceSurvives_iff mediumEffort 6 _ _ 1 2 .null isRun).mpr
        ⟨within, ?_⟩⟩
      intro response member
      rw [outcomes, requests] at member
      rw [List.mem_singleton.mp member]
      exact ⟨requestUsage, rfl, safePayload_requestUsage⟩

/-- What a provider reports of the tokens it spent. -/
def tokenUsage : Json :=
  .object [("input_tokens", Payload.number 10)]

/-- The number of tokens stands under a key that is taken for a credential. -/
theorem safePayload_tokenUsage : safePayload tokenUsage ≠ tokenUsage := by
  intro same
  have clean := clean_safePayload tokenUsage
  rw [same] at clean
  have secret : isSecret "input_tokens" = true := by decide +kernel
  have isRedacted := clean.isRedacted _ (.here (List.mem_singleton_self _)) secret
  cases isRedacted

/-- Every event finds room, and the usage row is not read back as it was. -/
theorem token_usage_lost :
    let _ := noArguments
    let _ := noItems
    let _ := noLimit
    let ended := execute mediumEffort.toAgentLimits 6 (refusingProvider tokenUsage)
      { kind := .storefront } 1 2 .null
    (∃ report, ended.1 = .ok report) ∧ ended.2.added ≤ maxEvents ∧
      ¬EvidenceSurvives mediumEffort.toAgentLimits ended.2.evidence := by
  intro _ _ _ ended
  have facts : ended.1.toOption.isSome = true ∧ ended.2.added ≤ maxEvents ∧
      ended.2.requests.length = 1 := by
    decide +kernel
  obtain ⟨reported, within, requests⟩ := facts
  obtain ⟨report, isReport⟩ : ∃ report, ended.1 = .ok report := by
    cases outcome : ended.1 with
    | error => rw [outcome] at reported; cases reported
    | ok report => exact ⟨report, rfl⟩
  refine ⟨⟨report, isReport⟩, within, fun survives => ?_⟩
  obtain ⟨_, _, concludes⟩ := concludes_execute (Prod.ext isReport rfl : ended = (.ok report, ended.2))
  obtain ⟨_, _, ended⟩ := ended_of_concludes concludes
  obtain ⟨_, _, kept⟩ := fromPayload_toPayload_self_iff.mp survives.decodes
  have rows := ended.rows
  rw [outcomes, requests] at rows
  obtain ⟨row, isRow, made⟩ := exists_left_of_forall₂ rows (List.mem_singleton_self _)
  obtain ⟨usage, isUsage, same⟩ := made.isKept_iff.mp (kept row isRow)
  cases isUsage
  exact safePayload_tokenUsage same

end AgentRank.Benchmark.Llm
