import AgentRank.Benchmark.WireAcceptance

/-!
# The protocol between a runner and a worker

What is sent arrives as it was sent, also through JSON text.  A document with a field that its
format lacks is refused, and so is one that states another version.  One that states no version is
read as if it stated the current one.
-/

namespace AgentRank.Benchmark.Llm.Wire

open Constraints Relational Representation Store

/-- A value is read from its document, and from the text of its document. -/
def Crosses {α : Type} (read : Json → Except WireError α) (payload : Json) (value : α) : Prop :=
  read payload = .ok value ∧
    ∀ gaps text, dumps gaps payload = some text →
      ∃ document, loads text = .ok document ∧ read document = .ok value

theorem crosses_iff {α : Type} {read : Json → Except WireError α} {payload : Json} {value : α}
    (distinct : DistinctKeys payload) : Crosses read payload value ↔ read payload = .ok value :=
  ⟨And.left, fun isRead =>
    ⟨isRead, fun _ _ written => ⟨payload, loads_dumps distinct written, isRead⟩⟩⟩

theorem distinctKeys_optional {α : Type} {part : Option α} {payload : α → Json}
    (distinct : ∀ value, part = some value → DistinctKeys (payload value)) :
    DistinctKeys (optional part payload) := by
  cases part with
  | none => exact .null
  | some value => exact distinct value rfl

theorem distinctKeys_optionalText (text : Option String) :
    DistinctKeys (Payload.optionalText text) := by
  cases text with
  | none => exact .null
  | some text => exact .scalar _

theorem distinctKeys_report (report : ExecutorReport) :
    DistinctKeys (executorReportPayload report) := by
  refine .object _ (by simp [reportParts]) fun field member => ?_
  simp only [reportParts, List.mem_cons, List.not_mem_nil, or_false] at member
  rcases member with rfl | rfl | rfl | rfl | rfl | rfl
  · exact .scalar _
  · refine distinctKeys_optional fun selection _ => .object _ (by simp [selectionFields]) ?_
    intro field member
    simp only [selectionFields, List.mem_cons, List.not_mem_nil, or_false] at member
    rcases member with rfl | rfl <;> exact .scalar _
  · refine distinctKeys_optional fun checkout _ => .object _ (by simp [checkoutFields]) ?_
    intro field member
    simp only [checkoutFields, List.mem_cons, List.not_mem_nil, or_false] at member
    rcases member with rfl | rfl <;> exact distinctKeys_optional fun _ _ => .scalar _
  · refine distinctKeys_optional fun payment _ => .object _ (by simp [paymentFields]) ?_
    intro field member
    rw [List.mem_singleton.mp member]
    exact .scalar _
  · refine distinctKeys_optional fun abstention _ => .object _ (by simp [abstentionFields]) ?_
    intro field member
    simp only [abstentionFields, List.mem_cons, List.not_mem_nil, or_false] at member
    rcases member with rfl | rfl
    · exact .scalar _
    · exact distinctKeys_optionalText _
  · refine distinctKeys_optional fun error _ => .object _ (by simp [errorFields]) ?_
    intro field member
    rw [List.mem_singleton.mp member]
    exact .scalar _

theorem distinctKeys_result (report : ExecutorReport) (evidence : Option AgentExecutionEvidence)
    (attempts : Option Nat) : DistinctKeys (workerResultPayload report evidence attempts) := by
  refine .object _ ?_ fun field member => ?_
  · cases evidence <;> cases attempts <;> simp [resultParts]
  · simp only [resultParts, List.mem_append, List.mem_cons, List.not_mem_nil, or_false,
      List.mem_map] at member
    rcases member with (((rfl | rfl) | ⟨evidence, _, rfl⟩) | ⟨attempts, _, rfl⟩)
    · exact .scalar _
    · exact distinctKeys_report report
    · exact distinctKeys_evidence evidence
    · exact .scalar _

theorem distinctKeys_request (valid : ValidRequest) : DistinctKeys valid.request.toPayload := by
  refine .object _ (by simp [MissionRequest.parts]) fun field member => ?_
  simp only [MissionRequest.parts, List.mem_cons, List.not_mem_nil, or_false] at member
  rcases member with rfl | rfl | rfl | rfl | rfl | rfl | rfl | rfl | rfl | rfl | rfl
  · exact .scalar _
  · exact .scalar _
  · exact .scalar _
  · exact .scalar _
  · exact .scalar _
  · exact distinctKeys_brief _
  · exact distinctKeys_optional fun _ _ => .scalar _
  · exact distinctKeys_optional valid.configurationDistinct
  · exact distinctKeys_optional valid.informationDistinct
  · exact distinctKeys_optional valid.discoveryDistinct
  · exact distinctKeys_optional fun _ _ => .scalar _

/-! ## Versions -/

/-- A document carries the current version. -/
def carriesVersion (fields : List (String × Json)) : Bool :=
  (fields.lookup "protocol").any isCurrent

/-- A document with the current version for whatever version it states. -/
def restated (fields : List (String × Json)) : List (String × Json) :=
  ("protocol", Payload.number protocolVersion) ::
    fields.filter fun field => decide (field.1 ≠ "protocol")

def IsRefused {α : Type} (read : Json → Except WireError α) (payload : Json) : Prop :=
  ∃ error, read payload = .error error

variable {name : String}

section Versions

variable {fields : List (String × Json)}

theorem lookup_restated (otherwise : name ≠ "protocol") :
    (restated fields).lookup name = fields.lookup name := by
  rw [restated, List.lookup_cons, beq_false_of_ne otherwise]
  dsimp only
  induction fields with
  | nil => rfl
  | cons field rest ih =>
      rw [List.filter_cons]
      split
      · rw [List.lookup_cons, List.lookup_cons, ih]
      · rename_i isVersion
        have named : field.1 = "protocol" := by
          simpa using isVersion
        have other : (name == field.1) = false := beq_false_of_ne (named ▸ otherwise)
        rw [List.lookup_cons, other, ih]

theorem unknownIn_restated {known : List String} (versioned : "protocol" ∈ known) :
    unknownIn (restated fields) known = unknownIn fields known := by
  have isKnown : known.contains "protocol" = true := List.contains_iff_mem.mpr versioned
  rw [restated, unknownIn, unknownIn, List.map_cons, List.filter_cons, isKnown]
  dsimp only [Bool.not_true, Bool.false_eq_true, if_false]
  rw [if_neg (by decide)]
  induction fields with
  | nil => rfl
  | cons field rest ih =>
      rw [List.filter_cons, List.map_cons, List.filter_cons]
      split
      · rw [List.map_cons, List.filter_cons, ih]
      · rename_i isVersion
        have named : field.1 = "protocol" := by
          simpa using isVersion
        rw [named, isKnown, ih]
        rfl

/-- A document that does not carry the current version passes where it states no version. -/
theorem passesVersion_iff (notCarried : carriesVersion fields = false) :
    passesVersion fields = true ↔ isAbsent fields "protocol" = true := by
  rw [carriesVersion] at notCarried
  rw [passesVersion, isAbsent]
  split
  · exact iff_of_true rfl rfl
  · exact iff_of_true rfl rfl
  · rename_i version notNull found
    rw [found] at notCarried
    have other : isCurrent version = false := notCarried
    rw [other]

end Versions

/-- A reader checks the fields of a document first, and reads from it what is no version. -/
structure ReadsDocument {α : Type} (known : List String) (read : Json → Except WireError α) :
    Prop where
  versioned : "protocol" ∈ known
  checked : ∃ body : List (String × Json) → Except WireError α,
    (∀ payload, read payload = documentOf known payload >>= body) ∧
      ∀ fields, body (restated fields) = body fields

/-- What a reader refuses. -/
structure Checks {α : Type} (known : List String) (read : Json → Except WireError α) : Prop where
  objects : ∀ payload, isObject payload = false → IsRefused read payload
  unknown : ∀ fields, unknownIn fields known ≠ [] → IsRefused read (.object fields)
  version : ∀ fields, carriesVersion fields = false →
    (IsRefused read (.object fields) ↔
      isAbsent fields "protocol" = false ∨ IsRefused read (.object (restated fields)))

theorem ReadsDocument.checks {α : Type} {known : List String} {read : Json → Except WireError α}
    (reads : ReadsDocument known read) : Checks known read := by
  obtain ⟨versioned, body, readEq, bodyEq⟩ := reads
  have refused : ∀ payload error, documentOf known payload = .error error →
      IsRefused read payload := by
    intro payload error failed
    refine ⟨error, ?_⟩
    rw [readEq, failed]
    rfl
  have unknown : ∀ fields, unknownIn fields known ≠ [] → IsRefused read (.object fields) := by
    intro fields someUnknown
    exact refused _ _ (if_neg someUnknown)
  refine ⟨fun payload notObject => ?_, unknown, fun fields notCarried => ?_⟩
  · cases payload with
    | object => cases notObject
    | null | scalar | array => exact refused _ _ rfl
  · by_cases allKnown : unknownIn fields known = []
    · have restatedDocument : documentOf known (.object (restated fields)) =
          .ok (restated fields) :=
        documentOf_eq_ok_iff.mpr ⟨rfl, (unknownIn_restated versioned).trans allKnown, rfl⟩
      by_cases absent : isAbsent fields "protocol" = true
      · have document : documentOf known (.object fields) = .ok fields :=
          documentOf_eq_ok_iff.mpr ⟨rfl, allKnown, (passesVersion_iff notCarried).mpr absent⟩
        have same : read (.object fields) = read (.object (restated fields)) := by
          rw [readEq, readEq, document, restatedDocument]
          exact (bodyEq fields).symm
        rw [IsRefused, IsRefused, same, absent]
        simp
      · have fails : passesVersion fields = false := by
          rw [← Bool.not_eq_true, passesVersion_iff notCarried]
          exact absent
        refine iff_of_true ?_ (Or.inl (Bool.eq_false_of_not_eq_true absent))
        cases document : documentOf known (.object fields) with
        | error error => exact refused _ error document
        | ok read =>
            have passes := (documentOf_eq_ok_iff.mp document).2.2
            rw [(Json.object.inj (documentOf_eq_ok_iff.mp document).1).symm, fails] at passes
            cases passes
    · refine iff_of_true (unknown fields allKnown) (Or.inr (unknown _ ?_))
      rwa [unknownIn_restated versioned]

section Readers

variable (fields : List (String × Json))

theorem objectIn_restated (otherwise : name ≠ "protocol") :
    objectIn (restated fields) name = objectIn fields name := by
  rw [objectIn, objectIn, lookup_restated otherwise]

theorem textIn_restated (otherwise : name ≠ "protocol") :
    textIn (restated fields) name = textIn fields name := by
  rw [textIn, textIn, lookup_restated otherwise]

theorem identifierIn_restated (otherwise : name ≠ "protocol") :
    identifierIn (restated fields) name = identifierIn fields name := by
  rw [identifierIn, identifierIn, textIn_restated fields otherwise]

theorem isAbsent_restated (otherwise : name ≠ "protocol") :
    isAbsent (restated fields) name = isAbsent fields name := by
  rw [isAbsent, isAbsent, lookup_restated otherwise]

theorem optionalIdIn_restated (otherwise : name ≠ "protocol") :
    optionalIdIn (restated fields) name = optionalIdIn fields name := by
  rw [optionalIdIn, optionalIdIn, isAbsent_restated fields otherwise,
    identifierIn_restated fields otherwise]

theorem optionalObjectIn_restated (otherwise : name ≠ "protocol") :
    optionalObjectIn (restated fields) name = optionalObjectIn fields name := by
  rw [optionalObjectIn, optionalObjectIn, lookup_restated otherwise]

theorem optionalIntegerIn_restated (otherwise : name ≠ "protocol") :
    optionalIntegerIn (restated fields) name = optionalIntegerIn fields name := by
  rw [optionalIntegerIn, optionalIntegerIn, isAbsent_restated fields otherwise, integerIn,
    integerIn, lookup_restated otherwise]

end Readers

theorem reportFromPayload_reads : ReadsDocument resultFields reportFromPayload where
  versioned := by decide
  checked := by
    refine ⟨_, fun payload => rfl, fun fields => ?_⟩
    rw [objectIn_restated fields (by decide)]

theorem agentEvidenceFromPayload_reads : ReadsDocument resultFields agentEvidenceFromPayload where
  versioned := by decide
  checked := by
    refine ⟨_, fun payload => rfl, fun fields => ?_⟩
    rw [lookup_restated (by decide)]

theorem providerAttemptsFromPayload_reads :
    ReadsDocument resultFields providerAttemptsFromPayload where
  versioned := by decide
  checked := by
    refine ⟨_, fun payload => rfl, fun fields => ?_⟩
    rw [lookup_restated (by decide)]

theorem fromPayload_reads : ReadsDocument requestFields MissionRequest.fromPayload where
  versioned := by decide
  checked := by
    refine ⟨_, fun payload => rfl, fun fields => ?_⟩
    dsimp only
    rw [objectIn_restated fields (by decide), identifierIn_restated fields (by decide),
      textIn_restated fields (by decide), textIn_restated fields (by decide),
      textIn_restated fields (by decide), optionalIdIn_restated fields (by decide),
      optionalObjectIn_restated fields (by decide), optionalObjectIn_restated fields (by decide),
      optionalObjectIn_restated fields (by decide), optionalIntegerIn_restated fields (by decide)]

/-! ## The protocol -/

/-- A result whose format is known, which states no other version, and which states a report. -/
def IsResultOf (payload : Json) (report : ExecutorReport) : Prop :=
  ∃ fields inner, payload = .object fields ∧ unknownIn fields resultFields = [] ∧
    passesVersion fields = true ∧ fields.lookup "observed" = some (.object inner) ∧
    StatesReport inner report

theorem reportFromPayload_eq_ok_iff {payload : Json} {report : ExecutorReport} :
    reportFromPayload payload = .ok report ↔ IsResultOf payload report := by
  rw [reportFromPayload]
  simp only [except_bind_eq_ok_iff, documentOf_eq_ok_iff]
  constructor
  · rintro ⟨fields, ⟨rfl, known, passes⟩, observed, isObject, isRead⟩
    rw [objectIn] at isObject
    split at isObject
    · rename_i inner found
      cases isObject
      exact ⟨fields, inner, rfl, known, passes, found, executorReportFromPayload_eq_ok_iff.mp isRead⟩
    · cases isObject
  · rintro ⟨fields, inner, rfl, known, passes, found, states⟩
    refine ⟨fields, ⟨rfl, known, passes⟩, .object inner, ?_,
      executorReportFromPayload_eq_ok_iff.mpr states⟩
    rw [objectIn, found]

/-- Evidence crosses beside a report exactly where it is valid and kept. -/
theorem evidence_crosses_iff {report : ExecutorReport} {attempts : Option Nat}
    {evidence : AgentExecutionEvidence} :
    Crosses agentEvidenceFromPayload (workerResultPayload report (some evidence) attempts)
        (some evidence) ↔
      evidence.IsValid ∧ (∀ event ∈ evidence.events, event.IsKept) ∧
        ∀ usage ∈ evidence.usages, usage.IsKept := by
  rw [crosses_iff (distinctKeys_result _ _ _), agentEvidenceFromPayload_some_iff,
    fromPayload_toPayload_self_iff]

def countingUsage : ProviderUsage where
  invocationSequence := 1
  traceSequence := 1
  provider := "openai"
  requestedModel := "model"
  actualModel := none
  providerRequestId := none
  providerLatencyMs := none
  usage := some (.object [("total_tokens", Payload.number 7)])

def countingEvidence : AgentExecutionEvidence where
  events := [{ eventType := .modelResponse, payload := .object [] }]
  usages := [countingUsage]

def plainReport : ExecutorReport where
  merchantId := 7

def versionlessFields : List (String × Json) :=
  [("observed", executorReportPayload plainReport)]

end AgentRank.Benchmark.Llm.Wire
