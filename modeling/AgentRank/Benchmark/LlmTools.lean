import AgentRank.Benchmark.Discovery
import AgentRank.Benchmark.Report
import AgentRank.Checkout.Quote
import AgentRank.Representation.JsonText

/-!
# The tools of a model buyer

This module models `LLMBuyer._tool` of `benchmark/llm.py`: one call as the model made it, the
arguments that are read out of its text, the operation of the merchant that it becomes, and the
result that the model is shown.

The schema library and the merchant are parameters.  Which calls raise an error that nothing
catches is stated as a condition on the call and on the merchant's answer.
-/

namespace AgentRank.Benchmark.Llm

open Checkout Commerce Constraints Store Text

structure ProviderToolCall where
  callId : String
  name : String
  arguments : String
deriving DecidableEq

/-- What a statement of `_tool` may raise. -/
inductive ToolRaised
  | keyError
  | valueError
  | validationError
  | typeError
  | attributeError
  | recursionError
  | agentRank (kind : String)
deriving DecidableEq

structure CheckoutItemInput where
  variantId : Uuid
  quantity : Nat
  quantityPositive : 0 < quantity
deriving DecidableEq

/-- What the rules of a quote ask of its items. -/
def isQuotable (items : List CheckoutItemInput) : Bool :=
  !items.isEmpty && decide (items.length ≤ maxCheckoutLines) &&
    decide (items.map CheckoutItemInput.variantId).Nodup

structure CreateCheckoutRequest where
  mandateId : Uuid
  items : List CheckoutItemInput
  quotable : isQuotable items = true

/-- The validation of one item by the schema library. -/
class ItemReading where
  item : Json → Option CheckoutItemInput

/-- The texts that are nested too deeply to be read. -/
class NestingLimit where
  exceeded : String → Bool

/-- What the merchant's surface does with one request.  An answer that is not the view it
should be fails its validation. -/
inductive SurfaceAnswer (α : Type)
  | given (answer : α)
  | invalid
  | refused (kind : String)

def SurfaceAnswer.result {α : Type} : SurfaceAnswer α → Except ToolRaised α
  | given answer => .ok answer
  | invalid => .error .validationError
  | refused kind => .error (.agentRank kind)

/-- `ProductSearchResponse`, with what `model_dump` makes of it. -/
structure SearchAnswer where
  fields : List (String × Json)
  count : Nat
  limit : Nat

structure CheckoutAnswer where
  id : Uuid
  document : Json

structure PaymentAnswer where
  attempt : Option Uuid
  document : Json

/-- What the merchant answers at the time of one call. -/
structure BuyerSurface where
  searchProducts : ProductSearchRequest → SurfaceAnswer SearchAnswer
  getProduct : Uuid → SurfaceAnswer Json
  createCheckout : CreateCheckoutRequest → SurfaceAnswer CheckoutAnswer
  getCheckout : Uuid → SurfaceAnswer Json
  prepareCheckout : Uuid → SurfaceAnswer Json
  completeCheckout : Uuid → String → SurfaceAnswer PaymentAnswer

mutual

/-- `_strip`. -/
def stripField (name : String) : Json → Json
  | .null => .null
  | .scalar value => .scalar value
  | .array items => .array (stripItems name items)
  | .object fields => .object (stripFields name fields)

def stripItems (name : String) : List Json → List Json
  | [] => []
  | item :: rest => stripField name item :: stripItems name rest

def stripFields (name : String) : List (String × Json) → List (String × Json)
  | [] => []
  | (key, value) :: rest =>
      if key = name then stripFields name rest
      else (key, stripField name value) :: stripFields name rest

end

def quoted (document : Json) : Json :=
  stripField "actual" (stripField "variant_attributes" document)

/-- What a call changes in the report. -/
structure Change where
  selection : Option ReportedSelection := none
  checkout : Option ReportedCheckout := none
  payment : Option ReportedPayment := none
  abstention : Option ReportedAbstention := none

structure ToolAnswer where
  result : Json
  change : Change := {}

def errorAnswer (message : String) : ToolAnswer where
  result := toolError message

/-- `"error" in result`. -/
def isErrorResult : Json → Bool
  | .object fields => (fields.lookup "error").isSome
  | _ => false

def ReadError.raised : ReadError → ToolRaised
  | .valueError _ => .valueError
  | .keyError => .keyError
  | .typeError => .typeError
  | .attributeError => .attributeError

/-- A result is always an object. -/
def shown (document : Except ReadError Json) : Except ToolRaised Json :=
  document.mapError ReadError.raised

/-! ## The tools -/

section Tools

variable [ArgumentReading] [ItemReading]

/-- `uuid.UUID(str(arguments[name]))`. -/
def identifierIn (arguments : List (String × Json)) (name : String) : Except ToolRaised Uuid :=
  match arguments.lookup name with
  | none => .error .keyError
  | some stated =>
      match uuidOf (ArgumentReading.str stated) with
      | none => .error .valueError
      | some id => .ok id

def searchTool (view : BuyerDiscoveryView) (surface : BuyerSurface)
    (arguments : List (String × Json)) : Except ToolRaised ToolAnswer := do
  -- The limit is passed by keyword, so a second one is a call with two values for it.
  if (arguments.lookup "limit").isSome then .error .typeError
  else
    match ArgumentReading.search arguments with
    | none => .error .validationError
    | some stated => do
        let answer ← (surface.searchProducts stated.request).result
        let document ← shown (discover view (.object answer.fields))
        let result ← shown (withTruncated document (answer.count == answer.limit))
        return { result := result }

def productTool (view : BuyerDiscoveryView) (surface : BuyerSurface)
    (arguments : List (String × Json)) : Except ToolRaised ToolAnswer := do
  let id ← identifierIn arguments "product_id"
  let document ← (surface.getProduct id).result
  return { result := ← shown (discover view document) }

/-- Every item of an argument, read as an item of a checkout. -/
def itemsIn (arguments : List (String × Json)) : Except ToolRaised (List CheckoutItemInput) :=
  match arguments.lookup "items" with
  | none => .error .keyError
  | some stated => do
      let items ← (iterationOf stated).mapError ReadError.raised
      match items.mapM ItemReading.item with
      | none => .error .validationError
      | some items => .ok items

def createTool (mandateId : Uuid) (surface : BuyerSurface) (arguments : List (String × Json)) :
    Except ToolRaised ToolAnswer := do
  let items ← itemsIn arguments
  if quotable : isQuotable items = true then
    let quote ← (surface.createCheckout
      { mandateId := mandateId, items := items, quotable := quotable }).result
    return {
      result := quoted quote.document
      change :=
        { selection := items.head?.map fun selected =>
            { variantId := selected.variantId
              quantity := selected.quantity
              quantityPositive := selected.quantityPositive }
          checkout := some
            { checkoutId := some quote.id
              refusal := none
              namedOrRefused := Or.inl rfl } } }
  else .error .validationError

/-- The two tools that read or change a checkout and report nothing of it. -/
def checkoutTool (operation : Uuid → SurfaceAnswer Json) (arguments : List (String × Json)) :
    Except ToolRaised ToolAnswer := do
  let id ← identifierIn arguments "checkout_id"
  let document ← (operation id).result
  return { result := quoted document }

def completeTool (surface : BuyerSurface) (arguments : List (String × Json)) :
    Except ToolRaised ToolAnswer := do
  let id ← identifierIn arguments "checkout_id"
  let key := "ar-llm-" ++ String.ofList (hexOf id)
  let payment ← (surface.completeCheckout id key).result
  return {
    result := quoted payment.document
    change := { payment := payment.attempt.map fun attempt => { attemptId := attempt } } }

def maxReasonLength : Nat := 500

def abstainTool (arguments : List (String × Json)) : Except ToolRaised ToolAnswer :=
  match arguments.lookup "reason" with
  | some (.scalar (.string reason)) =>
      if isBlank reason then .error .valueError
      else
        .ok
          { result := .object [("ended", Payload.text "abstained")]
            change :=
              { abstention := some
                  { code := .noCompliantCandidate
                    detail := some (String.ofList (reason.toList.take maxReasonLength)) } } }
  | _ => .error .valueError

/-- The branches of `_tool`, each for the tool it names. -/
def dispatchTool (view : BuyerDiscoveryView) (mandateId : Uuid) (surface : BuyerSurface)
    (name : String) (arguments : List (String × Json)) : Except ToolRaised ToolAnswer :=
  if name = "search_products" then searchTool view surface arguments
  else if name = "get_product" then productTool view surface arguments
  else if name = "create_checkout" then createTool mandateId surface arguments
  else if name = "inspect_checkout" then checkoutTool surface.getCheckout arguments
  else if name = "prepare_checkout" then checkoutTool surface.prepareCheckout arguments
  else if name = "complete_checkout" then completeTool surface arguments
  else if name = "abstain" then abstainTool arguments
  else .ok (errorAnswer s!"unknown tool: {name}")

/-- The two clauses that catch what a branch raised. -/
def caught : Except ToolRaised ToolAnswer → Except ToolRaised ToolAnswer
  | .ok answer => .ok answer
  | .error .keyError => .ok (errorAnswer "invalid arguments: KeyError")
  | .error .valueError => .ok (errorAnswer "invalid arguments: ValueError")
  | .error .validationError => .ok (errorAnswer "invalid arguments: ValidationError")
  | .error (.agentRank kind) => .ok (errorAnswer s!"merchant error: {kind}")
  | .error raised => .error raised

/-- `_tool`. -/
def tool [NestingLimit] (view : BuyerDiscoveryView) (mandateId : Uuid) (surface : BuyerSurface)
    (call : ProviderToolCall) : Except ToolRaised ToolAnswer :=
  if NestingLimit.exceeded call.arguments then .error .recursionError
  else
    match Representation.loads call.arguments with
    -- Only a decoding error is caught here, and a number with too many digits is none.
    | .error .tooManyDigits => .error .valueError
    | .error .malformed => .ok (errorAnswer "invalid JSON arguments")
    | .ok (.object arguments) => caught (dispatchTool view mandateId surface call.name arguments)
    | .ok _ => .ok (errorAnswer "arguments must be an object")

mutual

/-- An object has attributes beside a SKU that is a list or an object. -/
def hasUnhashableSku : Json → Bool
  | .null => false
  | .scalar _ => false
  | .array items => hasUnhashableSkuItems items
  | .object fields =>
      ((fields.lookup "attributes").isSome &&
        (fields.lookup "sku").any fun sku => !isHashable sku) || hasUnhashableSkuFields fields

def hasUnhashableSkuItems : List Json → Bool
  | [] => false
  | item :: rest => hasUnhashableSku item || hasUnhashableSkuItems rest

def hasUnhashableSkuFields : List (String × Json) → Bool
  | [] => false
  | (_, value) :: rest => hasUnhashableSku value || hasUnhashableSkuFields rest

end

/-- A document that the view can be read through. -/
def Readable (view : BuyerDiscoveryView) (document : Json) : Prop :=
  view.kind = .agentReady → hasUnhashableSku document = false

/-- What a `for` loop can run over. -/
def isIterable : Json → Bool
  | .null => false
  | .scalar (.string _) => true
  | .scalar _ => false
  | .array _ => true
  | .object _ => true

/-- The arguments of a tool are of a shape that its branch expects, and so is the merchant's
answer where a view is put over it. -/
def HandledArguments (view : BuyerDiscoveryView) (surface : BuyerSurface) (name : String)
    (arguments : List (String × Json)) : Prop :=
  if name = "search_products" then
    arguments.lookup "limit" = none ∧
      ∀ stated answer, ArgumentReading.search arguments = some stated →
        surface.searchProducts stated.request = .given answer →
          Readable view (.object answer.fields)
  else if name = "get_product" then
    ∀ id document, identifierIn arguments "product_id" = .ok id →
      surface.getProduct id = .given document → Readable view document
  else if name = "create_checkout" then
    ∀ stated, arguments.lookup "items" = some stated → isIterable stated = true
  else True

/-- A call that `_tool` answers. -/
def Handled [NestingLimit] (view : BuyerDiscoveryView) (surface : BuyerSurface)
    (call : ProviderToolCall) : Prop :=
  NestingLimit.exceeded call.arguments = false ∧
    Representation.loads call.arguments ≠ .error .tooManyDigits ∧
      ∀ arguments, Representation.loads call.arguments = .ok (.object arguments) →
        HandledArguments view surface call.name arguments

def NamesCheckout (arguments : List (String × Json)) : Prop :=
  ∃ id, identifierIn arguments "checkout_id" = .ok id

/-- The arguments are what a tool asks for. -/
def WellFormedArguments (name : String) (arguments : List (String × Json)) : Prop :=
  if name = "search_products" then (ArgumentReading.search arguments).isSome = true
  else if name = "get_product" then ∃ id, identifierIn arguments "product_id" = .ok id
  else if name = "create_checkout" then
    ∃ items, itemsIn arguments = .ok items ∧ isQuotable items = true
  else if name = "inspect_checkout" then NamesCheckout arguments
  else if name = "prepare_checkout" then NamesCheckout arguments
  else if name = "complete_checkout" then NamesCheckout arguments
  else if name = "abstain" then
    ∃ reason, arguments.lookup "reason" = some (Payload.text reason) ∧ isBlank reason = false
  else False

/-- A call whose arguments are an object that its tool asks for. -/
def WellFormed (call : ProviderToolCall) : Prop :=
  ∃ arguments, Representation.loads call.arguments = .ok (.object arguments) ∧
    WellFormedArguments call.name arguments

end Tools

/-! ## Projection -/

/-- Projecting a value keeps it a list, an object or neither. -/
theorem isHashable_project {view : BuyerDiscoveryView} {value projected : Json}
    (isProjected : project view value = .ok projected) :
    isHashable projected = isHashable value := by
  cases value with
  | null | scalar => cases isProjected; rfl
  | array items =>
      simp only [project, bind, Except.bind] at isProjected
      split at isProjected
      · cases isProjected
      · cases isProjected; rfl
  | object fields =>
      simp only [project, bind, Except.bind] at isProjected
      split at isProjected
      · cases isProjected
      · split at isProjected
        · cases isProjected
        · cases isProjected; rfl

/-- The fields of an object are projected under their names. -/
theorem lookup_projectFields {view : BuyerDiscoveryView} {fields projected : List (String × Json)}
    (isProjected : projectFields view fields = .ok projected) (name : String) :
    (projected.lookup name = none ∧ fields.lookup name = none) ∨
      ∃ value after, fields.lookup name = some value ∧ projected.lookup name = some after ∧
        project view value = .ok after := by
  induction fields generalizing projected with
  | nil =>
      cases isProjected
      exact Or.inl ⟨rfl, rfl⟩
  | cons field rest ih =>
      obtain ⟨key, value⟩ := field
      simp only [projectFields, bind, Except.bind] at isProjected
      split at isProjected
      · cases isProjected
      · rename_i after afterEq
        split at isProjected
        · cases isProjected
        · rename_i others othersEq
          cases isProjected
          rw [Relational.Mapping.lookup_cons_ite, Relational.Mapping.lookup_cons_ite]
          by_cases isKey : name = key
          · rw [if_pos isKey, if_pos isKey]
            exact Or.inr ⟨value, after, rfl, rfl, afterEq⟩
          · rw [if_neg isKey, if_neg isKey]
            exact ih othersEq

theorem factsUnder_isOk_iff (view : BuyerDiscoveryView) (sku : Json) :
    (∃ facts, factsUnder view sku = .ok facts) ↔ (view.kind = .agentReady → isHashable sku = true) := by
  unfold factsUnder
  cases view.kind with
  | storefront => simp
  | agentReady =>
      cases sku with
      | scalar value => cases value <;> simp [isHashable]
      | null | array | object => simp [isHashable]

theorem present_isOk_iff (view : BuyerDiscoveryView) (projected : List (String × Json)) :
    (∃ fields, present view projected = .ok fields) ↔
      (view.kind = .agentReady → (projected.lookup "attributes").isSome = true →
        (projected.lookup "sku").any (fun sku => !isHashable sku) = false) := by
  unfold present
  cases attributesEq : projected.lookup "attributes" with
  | none => simp
  | some attributes =>
      cases skuEq : projected.lookup "sku" with
      | none => simp
      | some sku =>
          have facts := factsUnder_isOk_iff view sku
          simp only [Option.isSome_some, forall_true_left, Option.any_some, Bool.not_eq_false']
          rw [← facts]
          constructor
          · rintro ⟨fields, isPresent⟩
            cases factsEq : factsUnder view sku with
            | error raised => simp [factsEq, bind, Except.bind] at isPresent
            | ok found => exact ⟨found, rfl⟩
          · rintro ⟨found, factsEq⟩
            simp only [factsEq, bind, Except.bind]
            split
            · exact ⟨_, rfl⟩
            · exact ⟨_, rfl⟩

mutual

/-- A view is put over every document but those with attributes beside an unhashable SKU. -/
theorem project_isOk_iff (view : BuyerDiscoveryView) :
    (value : Json) → ((∃ projected, project view value = .ok projected) ↔ Readable view value)
  | .null => by simp [project, Readable, hasUnhashableSku]
  | .scalar value => by simp [project, Readable, hasUnhashableSku]
  | .array items => by
      rw [Readable, hasUnhashableSku, ← projectItems_isOk_iff view items]
      cases itemsEq : projectItems view items <;>
        simp [project, itemsEq, bind, Except.bind, pure, Except.pure]
  | .object fields => by
      have inner := projectFields_isOk_iff view fields
      simp only [Readable, hasUnhashableSku, Bool.or_eq_false_iff]
      cases fieldsEq : projectFields view fields with
      | error raised =>
          rw [fieldsEq] at inner
          simp only [reduceCtorEq, exists_const, false_iff] at inner
          constructor
          · rintro ⟨result, isProjected⟩
            simp [project, fieldsEq, bind, Except.bind] at isProjected
          · intro readable
            exact absurd (fun isReady => (readable isReady).2) inner
      | ok projected =>
          have readable := inner.mp ⟨projected, fieldsEq⟩
          have attributes := lookup_projectFields fieldsEq "attributes"
          have sku := lookup_projectFields fieldsEq "sku"
          have presented := present_isOk_iff view projected
          have same : ((projected.lookup "attributes").isSome = (fields.lookup "attributes").isSome) ∧
              (projected.lookup "sku").any (fun sku => !isHashable sku) =
                (fields.lookup "sku").any fun sku => !isHashable sku := by
            constructor
            · rcases attributes with ⟨none, absent⟩ | ⟨value, after, held, changed, _⟩
              · rw [none, absent]
              · rw [held, changed]; rfl
            · rcases sku with ⟨none, absent⟩ | ⟨value, after, held, changed, isProjected⟩
              · rw [none, absent]
              · rw [held, changed, Option.any_some, Option.any_some,
                  isHashable_project isProjected]
          rw [same.1, same.2] at presented
          have whole : (∃ result, project view (.object fields) = .ok result) ↔
              ∃ result, present view projected = .ok result := by
            cases presentEq : present view projected <;>
              simp [project, fieldsEq, presentEq, bind, Except.bind, pure, Except.pure]
          rw [whole, presented]
          constructor
          · intro held isReady
            refine ⟨?_, readable isReady⟩
            rw [Bool.and_eq_false_iff]
            by_cases stated : (fields.lookup "attributes").isSome = true
            · exact Or.inr (held isReady stated)
            · exact Or.inl (Bool.eq_false_iff.mpr stated)
          · intro held isReady stated
            have first := (held isReady).1
            rwa [stated, Bool.true_and] at first

theorem projectItems_isOk_iff (view : BuyerDiscoveryView) :
    (items : List Json) → ((∃ projected, projectItems view items = .ok projected) ↔
      (view.kind = .agentReady → hasUnhashableSkuItems items = false))
  | [] => by simp [projectItems, hasUnhashableSkuItems]
  | item :: rest => by
      have first := project_isOk_iff view item
      have later := projectItems_isOk_iff view rest
      simp only [Readable] at first
      simp only [hasUnhashableSkuItems, Bool.or_eq_false_iff, forall_and]
      rw [← first, ← later]
      cases itemEq : project view item <;> cases restEq : projectItems view rest <;>
        simp [projectItems, itemEq, restEq, bind, Except.bind, pure, Except.pure]

theorem projectFields_isOk_iff (view : BuyerDiscoveryView) :
    (fields : List (String × Json)) → ((∃ projected, projectFields view fields = .ok projected) ↔
      (view.kind = .agentReady → hasUnhashableSkuFields fields = false))
  | [] => by simp [projectFields, hasUnhashableSkuFields]
  | (name, value) :: rest => by
      have first := project_isOk_iff view value
      have later := projectFields_isOk_iff view rest
      simp only [Readable] at first
      simp only [hasUnhashableSkuFields, Bool.or_eq_false_iff, imp_and]
      rw [← first, ← later]
      cases valueEq : project view value <;> cases restEq : projectFields view rest <;>
        simp [projectFields, valueEq, restEq, bind, Except.bind, pure, Except.pure]

end

end AgentRank.Benchmark.Llm
