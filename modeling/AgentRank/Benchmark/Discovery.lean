import AgentRank.Commerce.Surface
import AgentRank.Representation.CommercePayload
import AgentRank.Store.Hexadecimal

/-!
# The discovery boundary

This module models `benchmark/discovery.py` and the two catalog tools of `benchmark/llm.py`: the
views a buyer may read the catalog through, their form on the worker's wire, and the projection
that takes the catalog's own attribute dictionaries out of an answer.

Documents are JSON values.  Reading one can fail the way Python fails on a value of another type.
-/

namespace AgentRank.Benchmark

open Commerce Constraints Relational Store Text

/-- What reading a document may raise. -/
inductive ReadError
  | valueError (error : ValueError)
  | keyError
  | typeError
  | attributeError
deriving DecidableEq

/-- `document.get(name)`. -/
def fieldOf (document : Json) (name : String) : Except ReadError (Option Json) :=
  match document with
  | .object fields => .ok (fields.lookup name)
  | _ => .error .attributeError

/-- `document[name]`. -/
def itemOf (document : Json) (name : String) : Except ReadError Json :=
  match document with
  | .object fields =>
      match fields.lookup name with
      | some value => .ok value
      | none => .error .keyError
  | _ => .error .typeError

/-- What a `for` loop runs over: a list's items, the keys of an object or a text's characters. -/
def iterationOf : Json → Except ReadError (List Json)
  | .array items => .ok items
  | .object fields => .ok (fields.map fun field => Payload.text field.1)
  | .scalar (.string text) => .ok (text.toList.map fun char => Payload.text char.toString)
  | _ => .error .typeError

/-- Lists and objects have no hash. -/
def isHashable : Json → Bool
  | .array _ => false
  | .object _ => false
  | _ => true

def factFields : List String := ["key", "kind", "unit", "value"]

def oracleFields : List String :=
  ["expected_outcome", "simulated_value", "simulated_value_amount_minor"]

inductive DiscoveryKind
  | storefront
  | agentReady
deriving DecidableEq

def DiscoveryKind.value : DiscoveryKind → String
  | storefront => "STOREFRONT"
  | agentReady => "AGENT_READY"

/-- A published fact.  It has the four fields and no other. -/
structure Fact where
  key : Json
  kind : Json
  unit : Json
  value : Json

def Fact.fields (fact : Fact) : List (String × Json) :=
  [("key", fact.key), ("kind", fact.kind), ("unit", fact.unit), ("value", fact.value)]

/-- Which discovery surface a buyer sees, and the facts behind it. -/
structure BuyerDiscoveryView where
  kind : DiscoveryKind
  representationId : Option Uuid := none
  attributesBySku : Mapping (List Fact) := .empty

instance : Dataclass BuyerDiscoveryView where
  refusal view :=
    match view.kind with
    | .storefront =>
        if view.representationId.isSome || !view.attributesBySku.entries.isEmpty then
          some { message := "a storefront discovery view carries no representation" }
        else none
    | .agentReady =>
        if view.representationId.isNone then
          some { message := "an agent-ready discovery view names its representation" }
        else if view.attributesBySku.entries.any fun entry => isBlank entry.1 then
          some { message := "agent-ready attributes must be keyed by sku" }
        else none

/-- The facts under a SKU.  A SKU without facts reads like one that is not covered. -/
def BuyerDiscoveryView.factsOf (view : BuyerDiscoveryView) (sku : String) : List Fact :=
  (view.attributesBySku.get? sku).getD []

/-- A check of a value, among the steps that may raise. -/
def built {ρ : Type} [Dataclass ρ] (fields : ρ) : Except ReadError (Made ρ) :=
  (make fields).mapError .valueError

def storefrontView : Except ReadError (Made BuyerDiscoveryView) :=
  built { kind := .storefront }

def agentReadyView (representationId : Uuid) (attributesBySku : Mapping (List Fact)) :
    Except ReadError (Made BuyerDiscoveryView) :=
  built
    { kind := .agentReady
      representationId := some representationId
      attributesBySku := attributesBySku }

def factOf (stated : Json) : Except ReadError Fact := do
  let key ← itemOf stated "key"
  let kind ← itemOf stated "kind"
  let unit ← itemOf stated "unit"
  let fact ← itemOf stated "fact"
  let value ← itemOf fact "value"
  return { key := key, kind := kind, unit := unit, value := value }

def skuOf (variant : Json) : Except ReadError String := do
  match ← fieldOf variant "sku" with
  | some (.scalar (.string sku)) =>
      if isBlank sku then
        .error (.valueError { message := "a Commerce IR variant is missing its sku" })
      else .ok sku
  | _ => .error (.valueError { message := "a Commerce IR variant is missing its sku" })

/-- What a loop over a list field runs over; a missing field is an empty list. -/
def listOf (document : Json) (name : String) : Except ReadError (List Json) := do
  let items ← fieldOf document name
  iterationOf (items.getD (.array []))

/-- One turn of the inner loop in `_ir_attributes`. -/
def readVariant (bySku : Mapping (List Fact)) (variant : Json) :
    Except ReadError (Mapping (List Fact)) := do
  let sku ← skuOf variant
  let facts ← (← listOf variant "attributes").mapM factOf
  return bySku.insert sku facts

/-- `_ir_attributes`. -/
def irAttributes (payload : Json) : Except ReadError (Mapping (List Fact)) := do
  (← listOf payload "products").foldlM
    (fun bySku product => do (← listOf product "variants").foldlM readVariant bySku) .empty

def buyerDiscoveryView (representationKind : String) (representationId : Option Uuid)
    (representationPayload : Option Json) : Except ReadError (Made BuyerDiscoveryView) :=
  if representationKind = "RAW" then
    if representationId.isSome || representationPayload.isSome then
      .error (.valueError
        { message := "a raw treatment cannot carry a Commerce IR representation" })
    else storefrontView
  else if representationKind = "COMPILED" then
    match representationId, representationPayload with
    | some id, some payload => do agentReadyView id (← irAttributes payload)
    | _, _ =>
        .error (.valueError
          { message := "a compiled treatment requires its Commerce IR representation" })
  else
    .error (.valueError
      { message := "unknown representation kind ", got := some (.string representationKind) })

/-! ## The worker's wire -/

def wireItem (sku : String) (fact : Fact) : Json :=
  .object (("sku", Payload.text sku) :: fact.fields)

/-- The facts of a view, each under its SKU, in the order of the SKUs. -/
def BuyerDiscoveryView.statements (view : BuyerDiscoveryView) : List (String × Fact) :=
  view.attributesBySku.entries.flatMap fun entry => entry.2.map fun fact => (entry.1, fact)

def toPayload (view : BuyerDiscoveryView) : Json :=
  match view.kind, view.representationId with
  | .agentReady, some id =>
      .object
        [("kind", Payload.text view.kind.value), ("representation_id", Payload.uuid id),
          ("attributes",
            .array (view.statements.map fun statement => wireItem statement.1 statement.2))]
  | _, _ => .object [("kind", Payload.text view.kind.value)]

mutual

/-- The oracle fields of the first object that has any, in their order. -/
def forbiddenIn : Json → List String
  | .null => []
  | .scalar _ => []
  | .array items => forbiddenInItems items
  | .object fields =>
      match oracleFields.filter fun name => (fields.lookup name).isSome with
      | [] => forbiddenInFields fields
      | first :: rest => first :: rest

def forbiddenInItems : List Json → List String
  | [] => []
  | item :: rest =>
      match forbiddenIn item with
      | [] => forbiddenInItems rest
      | first :: more => first :: more

def forbiddenInFields : List (String × Json) → List String
  | [] => []
  | (_, value) :: rest =>
      match forbiddenIn value with
      | [] => forbiddenInFields rest
      | first :: more => first :: more

end

/-- `reject_oracle_fields`. -/
def rejectOracleFields (value : Json) : Except ReadError PUnit :=
  match forbiddenIn value with
  | [] => .ok ⟨⟩
  | names =>
      .error (.valueError
        { message := s!"discovery view contains benchmark oracle fields: {names}" })

/-- `item["key"] in ORACLE_FIELDS`. -/
def isOracleName : Json → Except ReadError Bool
  | .scalar (.string name) => .ok (oracleFields.contains name)
  | key => if isHashable key then .ok false else .error .typeError

/-- The fields of an object are these. -/
def hasExactly (fields : List (String × Json)) (names : List String) : Bool :=
  decide ((fields.map Prod.fst).Perm names)

/-- One fact as the worker reads it. -/
def readStatement (item : Json) : Except ReadError (String × Fact) := do
  let .object fields := item
    | .error (.valueError
        { message := "an agent-ready fact names its sku, key, kind, unit and value" })
  unless hasExactly fields ("sku" :: factFields) do
    .error (.valueError
      { message := "an agent-ready fact names its sku, key, kind, unit and value" })
  let .scalar (.string sku) ← itemOf item "sku"
    | .error (.valueError { message := "an agent-ready fact names its sku" })
  if isBlank sku then
    .error (.valueError { message := "an agent-ready fact names its sku" })
  let key ← itemOf item "key"
  if ← isOracleName key then
    .error (.valueError
      { message := "a published fact may not be named like benchmark ground truth" })
  return (sku, {
    key := key
    kind := ← itemOf item "kind"
    unit := ← itemOf item "unit"
    value := ← itemOf item "value" })

/-- Add a fact to the facts of its SKU. -/
def admitStatement (bySku : Mapping (List Fact)) (statement : String × Fact) :
    Mapping (List Fact) :=
  bySku.insert statement.1 ((bySku.get? statement.1).getD [] ++ [statement.2])

/-- `uuid.UUID(payload["representation_id"])`, whose type and value errors are caught. -/
def representationOf (payload : Json) : Except ReadError Uuid := do
  let stated ← itemOf payload "representation_id"
  match stated with
  | .scalar (.string text) =>
      match uuidOf text with
      | some id => .ok id
      | none =>
          .error (.valueError
            { message := "an agent-ready discovery view names a representation" })
  | .null =>
      .error (.valueError { message := "an agent-ready discovery view names a representation" })
  -- Any other value has no `replace`, and that error is not caught.
  | _ => .error .attributeError

/-- The view of a payload that says it is agent-ready. -/
def agentReadyFromPayload (payload : Json) (fields : List (String × Json)) :
    Except ReadError (Made BuyerDiscoveryView) := do
  unless hasExactly fields ["kind", "representation_id", "attributes"] do
    .error (.valueError
      { message := "an agent-ready discovery view carries its representation and facts" })
  let id ← representationOf payload
  let .array items ← itemOf payload "attributes"
    | .error (.valueError { message := "agent-ready attributes must be a list" })
  rejectOracleFields payload
  let bySku ← items.foldlM
    (fun bySku item => return admitStatement bySku (← readStatement item)) .empty
  agentReadyView id bySku

def viewFromPayload (payload : Json) : Except ReadError (Made BuyerDiscoveryView) :=
  match payload with
  | .object fields =>
      match fields.lookup "kind" with
      | some (.scalar (.string kind)) =>
          if kind = DiscoveryKind.storefront.value then
            if hasExactly fields ["kind"] then storefrontView
            else
              .error (.valueError
                { message := "a storefront discovery view carries no representation" })
          else if kind = DiscoveryKind.agentReady.value then agentReadyFromPayload payload fields
          else .error (.valueError { message := "unknown discovery view" })
      | _ => .error (.valueError { message := "unknown discovery view" })
  | _ => .error (.valueError { message := "the discovery view must be an object" })

def Fact.document (fact : Fact) : Json :=
  .object fact.fields

/-- `view.attributes_by_sku.get(sku)`, for a storefront nothing. -/
def factsUnder (view : BuyerDiscoveryView) (sku : Json) : Except ReadError (List Fact) :=
  match view.kind with
  | .storefront => .ok []
  | .agentReady =>
      match sku with
      | .scalar (.string text) => .ok (view.factsOf text)
      | _ => if isHashable sku then .ok [] else .error .typeError

/-- What happens to an object whose values are projected: beside a SKU, attributes are replaced by
the facts under it, or taken out where there are none. -/
def present (view : BuyerDiscoveryView) (projected : List (String × Json)) :
    Except ReadError (List (String × Json)) :=
  match projected.lookup "attributes", projected.lookup "sku" with
  | some _, some sku => do
      let facts ← factsUnder view sku
      if facts.isEmpty then return projected.filter fun field => field.1 != "attributes"
      else
        return projected.map fun field =>
          if field.1 = "attributes" then (field.1, .array (facts.map Fact.document)) else field
  | _, _ => .ok projected

mutual

/-- `_project`. -/
def project (view : BuyerDiscoveryView) : Json → Except ReadError Json
  | .null => .ok .null
  | .scalar value => .ok (.scalar value)
  | .array items => do return .array (← projectItems view items)
  | .object fields => do return .object (← present view (← projectFields view fields))

def projectItems (view : BuyerDiscoveryView) : List Json → Except ReadError (List Json)
  | [] => .ok []
  | item :: rest => do return (← project view item) :: (← projectItems view rest)

def projectFields (view : BuyerDiscoveryView) :
    List (String × Json) → Except ReadError (List (String × Json))
  | [] => .ok []
  | (name, value) :: rest => do
      return (name, ← project view value) :: (← projectFields view rest)

end

def discover (view : BuyerDiscoveryView) (document : Json) : Except ReadError Json :=
  project view document

/-! ## The buyer's catalog tools -/

def toolSearchLimit : Nat := 20

/-- What the validation of a search reads from the arguments of a call. -/
structure SearchArguments where
  query : Option String
  maxPriceAmountMinor : Option Nat
  currency : Option String
  includeInactive : Bool
  isQuery : query.all fun text => decide (text.length ≤ 200)
  isCurrency : currency.all isCurrencyCode
  isPriced : maxPriceAmountMinor.isSome = true → currency.isSome = true

/-- The schema library and `str`. -/
class ArgumentReading where
  /-- `none` where the validation of `ProductSearchRequest` refuses the arguments. -/
  search : List (String × Json) → Option SearchArguments
  str : Json → String

def SearchArguments.request (arguments : SearchArguments) : ProductSearchRequest where
  query := arguments.query
  maxPriceAmountMinor := arguments.maxPriceAmountMinor
  currency := arguments.currency
  includeInactive := arguments.includeInactive
  limit := toolSearchLimit
  isQuery := arguments.isQuery
  isCurrency := arguments.isCurrency
  isLimit := by decide
  isPriced := arguments.isPriced

inductive CatalogTool
  | searchProducts
  | getProduct
deriving DecidableEq

/-- A call as the model made it.  Arguments that are no JSON text are missing. -/
structure CatalogCall where
  tool : CatalogTool
  arguments : Option Json

def toolError (message : String) : Json :=
  .object [("error", Payload.text message)]

/-- `{**document, "truncated": ...}`. -/
def withTruncated (document : Json) (truncated : Bool) : Except ReadError Json :=
  match document with
  | .object fields => .ok (.object (fields ++ [("truncated", boolean truncated)]))
  | _ => .error .typeError

/-- The arguments of a call, read as one of the two reads or answered with an error. -/
def dispatchCall [ArgumentReading] (search : ProductSearchRequest → Except ReadError Json)
    (product : Uuid → Except ReadError Json) (call : CatalogCall) : Except ReadError Json :=
  match call.arguments with
  | none => .ok (toolError "invalid JSON arguments")
  | some (.object arguments) =>
      match call.tool with
      | .searchProducts =>
          -- The limit is passed by keyword, so a second one is a call with two values for it.
          if (arguments.lookup "limit").isSome then .error .typeError
          else
            match ArgumentReading.search arguments with
            | none => .ok (toolError "invalid arguments: ValidationError")
            | some stated => search stated.request
      | .getProduct =>
          match arguments.lookup "product_id" with
          | none => .ok (toolError "invalid arguments: KeyError")
          | some stated =>
              match uuidOf (ArgumentReading.str stated) with
              | none => .ok (toolError "invalid arguments: ValueError")
              | some id => product id
  | some _ => .ok (toolError "arguments must be an object")

section Tools

variable [TextColumns]

-- What the surface writes under the attributes of a variant, and what becomes of its answer.
variable (presented : CatalogVariant → Option Json) (shown : Json → Except ReadError Json)
  (surface : MerchantSurface)

def answerSearch (request : ProductSearchRequest) : Except ReadError Json := do
  let found := searchProducts surface.catalog (request.toCriteria surface.merchant.id)
  let answer ← shown (productSearchResponse presented surface.merchant found request.limit)
  withTruncated answer (found.length == request.limit)

def answerProduct (id : Uuid) : Except ReadError Json :=
  match getProduct surface.catalog id surface.merchant.id with
  | none => .ok (toolError "merchant error: NotFoundError")
  | some found => shown (productDetail presented surface.merchant found)

/-- The catalog branches of `LLMBuyer._tool`. -/
def answerCall [ArgumentReading] (call : CatalogCall) : Except ReadError Json :=
  dispatchCall (answerSearch presented shown surface) (answerProduct presented shown surface) call

end Tools

/-- What a model buyer with a view is shown. -/
def catalogTool [TextColumns] [ArgumentReading] (view : BuyerDiscoveryView)
    (surface : MerchantSurface) (call : CatalogCall) : Except ReadError Json :=
  answerCall catalogAttributes (discover view) surface call

end AgentRank.Benchmark
