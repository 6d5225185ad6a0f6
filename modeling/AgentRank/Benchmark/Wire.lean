import AgentRank.Benchmark.Report
import AgentRank.Benchmark.TracePayload

/-!
# What crosses the boundary to a worker

This module models `benchmark/wire.py`: the request that a runner sends, the result that a worker
sends back, and how each is read.  Whatever a document holds that its format does not describe is
refused.
-/

namespace AgentRank.Benchmark

def AbstentionCode.value : AbstentionCode → String
  | noCandidateFound => "NO_CANDIDATE_FOUND"
  | noCompliantCandidate => "NO_COMPLIANT_CANDIDATE"
  | merchantDataInsufficient => "MERCHANT_DATA_INSUFFICIENT"
  | budgetInsufficient => "BUDGET_INSUFFICIENT"

def CheckoutRefusal.value : CheckoutRefusal → String
  | outOfStock => "OUT_OF_STOCK"
  | variantUnavailable => "VARIANT_UNAVAILABLE"
  | merchantRefused => "MERCHANT_REFUSED"

end AgentRank.Benchmark

namespace AgentRank.Benchmark.Llm.Wire

open Constraints Store Text

def protocolVersion : Nat := 3

/-- What reading a document may raise: a `ProtocolError`, or what a constructor raises. -/
inductive WireError
  | protocol (message : String) (got : Option ScalarValue := none)
  | raised (error : ReadError)

def violation {α : Type} (message : String) (got : Option ScalarValue := none) :
    Except WireError α :=
  .error (.protocol message got)

def constructed {α : Type} (outcome : Except ReadError α) : Except WireError α :=
  outcome.mapError .raised

/-! ## Reading fields -/

/-- The version that a document carries is stated, and is this one. -/
def isCurrent : Json → Bool
  | .scalar (.number (.finite value)) => decide (value = protocolVersion)
  | _ => false

/-- A document that states no version, or this one. -/
def passesVersion (fields : List (String × Json)) : Bool :=
  match fields.lookup "protocol" with
  | none => true
  | some .null => true
  | some version => isCurrent version

/-- The fields of a document that its format does not have. -/
def unknownIn (fields : List (String × Json)) (known : List String) : List String :=
  (fields.map Prod.fst).filter fun name => !known.contains name

/-- `_document`. -/
def documentOf (known : List String) : Json → Except WireError (List (String × Json))
  | .object fields =>
      if unknownIn fields known = [] then
        if passesVersion fields then .ok fields
        else
          violation s!"protocol version is not {protocolVersion}: "
            (printed (fields.lookup "protocol"))
      else
        violation
          ("a protocol document has unknown fields: " ++
            ", ".intercalate (unknownIn fields known).mergeSort)
  | _ => violation "a protocol document is a JSON object"

section Fields

variable (fields : List (String × Json)) (name : String)

/-- `_object`. -/
def objectIn : Except WireError Json :=
  match fields.lookup name with
  | some (.object inner) => .ok (.object inner)
  | _ => violation s!"{name} must be an object"

/-- `_optional_object`. -/
def optionalObjectIn : Except WireError (Option (List (String × Json))) :=
  match fields.lookup name with
  | none => .ok none
  | some .null => .ok none
  | some (.object inner) => .ok (some inner)
  | some _ => violation s!"{name} must be an object or null"

/-- `_read`. -/
def readPart {α : Type} (build : Json → Except WireError α) : Except WireError (Option α) :=
  match fields.lookup name with
  | none => .ok none
  | some .null => .ok none
  | some (.object inner) => do return some (← build (.object inner))
  | some _ => violation s!"{name} must be an object or null"

/-- `_text`. -/
def textIn : Except WireError String :=
  match fields.lookup name with
  | some (.scalar (.string text)) => .ok text
  | _ => violation s!"{name} must be a string"

/-- `_optional_text`. -/
def optionalTextIn : Except WireError (Option String) :=
  match fields.lookup name with
  | none => .ok none
  | some .null => .ok none
  | some (.scalar (.string text)) => .ok (some text)
  | some _ => violation s!"{name} must be a string or null"

/-- `_integer`. -/
def integerIn : Except WireError Int :=
  match fields.lookup name with
  | some (.scalar (.number (.finite value))) =>
      if value.den = 1 then .ok value.num else violation s!"{name} must be an integer"
  | _ => violation s!"{name} must be an integer"

def isAbsent : Bool :=
  match fields.lookup name with
  | none => true
  | some .null => true
  | some _ => false

/-- `_optional_integer`. -/
def optionalIntegerIn : Except WireError (Option Int) :=
  if isAbsent fields name then .ok none else do return some (← integerIn fields name)

/-- `_identifier`. -/
def identifierIn : Except WireError Uuid := do
  match uuidOf (← textIn fields name) with
  | some id => return id
  | none => violation s!"{name} must be a UUID"

/-- `_optional_id`. -/
def optionalIdIn : Except WireError (Option Uuid) :=
  if isAbsent fields name then .ok none else do return some (← identifierIn fields name)

end Fields

/-- `_member`. -/
def memberOf {α : Type} (members : List α) (value : α → String) (enumeration stated : String) :
    Except WireError α :=
  match members.find? fun member => value member = stated with
  | some member => .ok member
  | none => violation s!"not a {enumeration}: " (some (.string stated))

def abstentionCodes : List AbstentionCode :=
  [.noCandidateFound, .noCompliantCandidate, .merchantDataInsufficient, .budgetInsufficient]

def checkoutRefusals : List CheckoutRefusal :=
  [.outOfStock, .variantUnavailable, .merchantRefused]

/-! ## Reports -/

/-- A part that may be absent. -/
def optional {α : Type} (part : Option α) (payload : α → Json) : Json :=
  match part with
  | none => .null
  | some value => payload value

def selectionFields (selection : ReportedSelection) : List (String × Json) :=
  [("variant_id", Payload.uuid selection.variantId),
    ("quantity", Payload.number selection.quantity)]

def checkoutFields (checkout : ReportedCheckout) : List (String × Json) :=
  [("checkout_id", optional checkout.checkoutId Payload.uuid),
    ("refusal", optional checkout.refusal fun refusal => Payload.text refusal.value)]

def paymentFields (payment : ReportedPayment) : List (String × Json) :=
  [("attempt_id", Payload.uuid payment.attemptId)]

def abstentionFields (abstention : ReportedAbstention) : List (String × Json) :=
  [("code", Payload.text abstention.code.value),
    ("detail", Payload.optionalText abstention.detail)]

def errorFields (error : ReportedError) : List (String × Json) :=
  [("detail", Payload.text error.detail)]

def reportParts (report : ExecutorReport) : List (String × Json) :=
  [("merchant_id", Payload.uuid report.merchantId),
    ("selection", optional report.selection fun part => .object (selectionFields part)),
    ("checkout", optional report.checkout fun part => .object (checkoutFields part)),
    ("payment", optional report.payment fun part => .object (paymentFields part)),
    ("abstention", optional report.abstention fun part => .object (abstentionFields part)),
    ("error", optional report.error fun part => .object (errorFields part))]

def executorReportPayload (report : ExecutorReport) : Json :=
  .object (reportParts report)

/-- `_selection_from`. -/
def selectionFrom (part : Json) : Except WireError ReportedSelection := do
  let document ← documentOf ["variant_id", "quantity"] part
  let variantId ← identifierIn document "variant_id"
  let quantity ← integerIn document "quantity"
  if positive : 0 < quantity.toNat then return ⟨variantId, quantity.toNat, positive⟩
  else
    constructed
      (refuse s!"a selected quantity must be positive, got {quantity}" none)

def refusalOf : Option String → Except WireError (Option CheckoutRefusal)
  | none => .ok none
  | some stated => do
      return some (← memberOf checkoutRefusals CheckoutRefusal.value "CheckoutRefusal" stated)

/-- `_checkout_from`. -/
def checkoutFrom (part : Json) : Except WireError ReportedCheckout := do
  let document ← documentOf ["checkout_id", "refusal"] part
  let stated ← optionalTextIn document "refusal"
  let checkoutId ← optionalIdIn document "checkout_id"
  let refusal ← refusalOf stated
  if named : checkoutId.isSome ∨ refusal.isSome then return ⟨checkoutId, refusal, named⟩
  else
    constructed (refuse "a checkout report names a quote or says why there is none" none)

/-- `_payment_from`. -/
def paymentFrom (part : Json) : Except WireError ReportedPayment := do
  let document ← documentOf ["attempt_id"] part
  return ⟨← identifierIn document "attempt_id"⟩

/-- `_abstention_from`. -/
def abstentionFrom (part : Json) : Except WireError ReportedAbstention := do
  let document ← documentOf ["code", "detail"] part
  let code ←
    memberOf abstentionCodes AbstentionCode.value "AbstentionCode" (← textIn document "code")
  let detail ← optionalTextIn document "detail"
  return ⟨code, detail⟩

/-- `_error_from`. -/
def errorFrom (part : Json) : Except WireError ReportedError := do
  let document ← documentOf ["detail"] part
  let detail ← textIn document "detail"
  if stated : isBlank detail = false then return ⟨detail, stated⟩
  else constructed (refuse "a reported error must say what went wrong" none)

def reportFields : List String :=
  ["merchant_id", "selection", "checkout", "payment", "abstention", "error"]

def executorReportFromPayload (payload : Json) : Except WireError ExecutorReport := do
  let document ← documentOf reportFields payload
  let merchantId ← identifierIn document "merchant_id"
  let selection ← readPart document "selection" selectionFrom
  let checkout ← readPart document "checkout" checkoutFrom
  let payment ← readPart document "payment" paymentFrom
  let abstention ← readPart document "abstention" abstentionFrom
  let error ← readPart document "error" errorFrom
  return {
    merchantId := merchantId
    selection := selection
    checkout := checkout
    payment := payment
    abstention := abstention
    error := error }

def resultFields : List String :=
  ["protocol", "observed", "agent_evidence", "provider_attempts"]

def resultParts (report : ExecutorReport) (evidence : Option AgentExecutionEvidence)
    (providerAttempts : Option Nat) : List (String × Json) :=
  [("protocol", Payload.number protocolVersion), ("observed", executorReportPayload report)] ++
    (evidence.toList.map fun evidence => ("agent_evidence", evidence.toPayload)) ++
    providerAttempts.toList.map fun attempts => ("provider_attempts", Payload.number attempts)

/-- `worker_result_payload`. -/
def workerResultPayload (report : ExecutorReport) (evidence : Option AgentExecutionEvidence)
    (providerAttempts : Option Nat) : Json :=
  .object (resultParts report evidence providerAttempts)

def reportFromPayload (payload : Json) : Except WireError ExecutorReport := do
  let document ← documentOf resultFields payload
  executorReportFromPayload (← objectIn document "observed")

def agentEvidenceFromPayload (payload : Json) :
    Except WireError (Option AgentExecutionEvidence) := do
  let document ← documentOf resultFields payload
  match document.lookup "agent_evidence" with
  | none => return none
  | some .null => return none
  | some raw => do return some (← constructed (AgentExecutionEvidence.fromPayload raw))

def providerAttemptsFromPayload (payload : Json) : Except WireError (Option Nat) := do
  let document ← documentOf resultFields payload
  match document.lookup "provider_attempts" with
  | none => return none
  | some .null => return none
  | some (.scalar (.number (.finite value))) =>
      if value.den = 1 ∧ 0 ≤ value.num then return some value.num.toNat
      else violation "provider_attempts must be a non negative integer"
  | some _ => violation "provider_attempts must be a non negative integer"

/-! ## Requests -/

def referenceStrategy : String := "reference"
def llmStrategy : String := "llm"

def strategies : List String := [referenceStrategy, llmStrategy]

/-- A mission, and what is needed to carry it out. -/
structure MissionRequest where
  brief : AgentMissionBrief
  merchantId : Uuid
  baseUrl : String
  token : String
  strategy : String := referenceStrategy
  mandateId : Option Uuid := none
  agentConfiguration : Option (List (String × Json)) := none
  merchantInformation : Option (List (String × Json)) := none
  discovery : Option (List (String × Json)) := none
  providerRequestGrant : Option Int := none

/-- Refuse a request unless a condition holds. -/
def require (condition : Bool) (message : String) : Except ReadError Unit :=
  if condition then .ok () else refuse message none

/-- `_reject_oracle_fields`. -/
def rejectOracleFieldsIn (value : Json) : Except ReadError Unit :=
  match forbiddenIn value with
  | [] => .ok ()
  | names => refuse s!"merchant information contains benchmark oracle fields: {names}" none

def viewIsReadable (discovery : Option (List (String × Json))) : Except ReadError Unit :=
  match discovery with
  | none => .ok ()
  | some fields => do
      let _ ← viewFromPayload (.object fields)
      return ()

/-- `MissionRequest.__post_init__`. -/
def MissionRequest.check (request : MissionRequest) : Except ReadError Unit := do
  let isLlm := decide (request.strategy = llmStrategy)
  if request.strategy ∉ strategies then
    refuse "unknown buyer strategy " (some (.string request.strategy))
  require (!isBlank request.baseUrl) "a mission request names where the merchant's API is"
  require (!isBlank request.token) "a mission request carries the credential it will present"
  require (!isLlm || request.mandateId.isSome) "an LLM mission request requires a trusted mandate"
  require (!isLlm || request.agentConfiguration.isSome)
    "an LLM mission request requires frozen agent configuration"
  require (!isLlm || request.merchantInformation.isSome)
    "an LLM mission request requires merchant information"
  require (!isLlm || request.discovery.isSome)
    "an LLM mission request requires its discovery view"
  require (!isLlm || request.providerRequestGrant.any fun grant => decide (1 ≤ grant))
    "an LLM mission request requires a reserved provider request grant"
  require (isLlm || request.providerRequestGrant.isNone)
    "only an LLM mission request may carry a provider request grant"
  if isLlm then viewIsReadable request.discovery
  match request.merchantInformation with
  | none => pure ()
  | some information => rejectOracleFieldsIn (.object information)
  require (isLlm || request.agentConfiguration.isNone)
    "only an LLM mission request may carry agent configuration"
  require (isLlm || request.discovery.isNone)
    "only an LLM mission request may carry a discovery view"

def MissionRequest.parts (request : MissionRequest) : List (String × Json) :=
  [("protocol", Payload.number protocolVersion), ("strategy", Payload.text request.strategy),
    ("merchant_id", Payload.uuid request.merchantId),
    ("base_url", Payload.text request.baseUrl), ("token", Payload.text request.token),
    ("brief", request.brief.toPayload), ("mandate_id", optional request.mandateId Payload.uuid),
    ("agent_configuration", optional request.agentConfiguration Json.object),
    ("merchant_information", optional request.merchantInformation Json.object),
    ("discovery", optional request.discovery Json.object),
    ("provider_request_grant", optional request.providerRequestGrant wholeNumber)]

def MissionRequest.toPayload (request : MissionRequest) : Json :=
  .object request.parts

def requestFields : List String :=
  ["protocol", "strategy", "merchant_id", "base_url", "token", "brief", "mandate_id",
    "agent_configuration", "merchant_information", "discovery", "provider_request_grant"]

def MissionRequest.fromPayload (payload : Json) : Except WireError MissionRequest := do
  let document ← documentOf requestFields payload
  let brief ← constructed (AgentMissionBrief.fromPayload (← objectIn document "brief"))
  let merchantId ← identifierIn document "merchant_id"
  let baseUrl ← textIn document "base_url"
  let token ← textIn document "token"
  let strategy ← textIn document "strategy"
  let mandateId ← optionalIdIn document "mandate_id"
  let agentConfiguration ← optionalObjectIn document "agent_configuration"
  let merchantInformation ← optionalObjectIn document "merchant_information"
  let discovery ← optionalObjectIn document "discovery"
  let providerRequestGrant ← optionalIntegerIn document "provider_request_grant"
  let request : MissionRequest :=
    { brief := brief
      merchantId := merchantId
      baseUrl := baseUrl
      token := token
      strategy := strategy
      mandateId := mandateId
      agentConfiguration := agentConfiguration
      merchantInformation := merchantInformation
      discovery := discovery
      providerRequestGrant := providerRequestGrant }
  constructed request.check
  return request

end AgentRank.Benchmark.Llm.Wire
