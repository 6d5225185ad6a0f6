import AgentRank.Importer.Amounts
import AgentRank.Importer.Identifiers
import AgentRank.Representation.Schemas

/-!
# Extraction of a product from one page

This module models how a product page becomes a draft product, or the stated reason why it does
not: from the structured data that the page publishes, and from its metadata where the page
publishes no product node or one without an offer.

A page is what was read of its markup.  A block of structured data is the value that it was
parsed to, or nothing where it could not be parsed.
-/

namespace AgentRank.Importer

open Text Arithmetic Auth Relational Representation

inductive AvailabilityEvidence
  | inStock
  | outOfStock
  | unknown
deriving DecidableEq

inductive ExtractionMethod
  | structuredData
  | pageMetadata
deriving DecidableEq

structure DraftVariant where
  sku : String
  label : Option String
  priceAmountMinor : Int
  currency : String
  availability : AvailabilityEvidence
  availabilityText : Option String
  inventoryQuantity : Option Int := none
deriving DecidableEq

structure DraftProduct where
  externalId : String
  title : String
  description : Option String
  category : Option String
  sourceUrl : String
  extraction : ExtractionMethod
  variants : List DraftVariant
deriving DecidableEq

structure Omission where
  sourceUrl : String
  reason : String
  detail : String
  subject : Option String := none
deriving DecidableEq

structure Finding where
  sourceUrl : String
  code : String
  detail : String
  subject : Option String := none
deriving DecidableEq

/-- What one product page produced: a product, or the stated reason there is not one. -/
structure ProductExtraction where
  product : Option DraftProduct
  omission : Option Omission
  findings : List Finding := []
deriving DecidableEq

/-- A page that is left out. -/
def ProductExtraction.omitted (omission : Omission) (findings : List Finding := []) :
    ProductExtraction where
  product := none
  omission := some omission
  findings := findings

/-- A node of structured data. -/
abbrev Node :=
  List (String × Published)

structure PageReading where
  title : Option String
  heading : Option String
  metadata : Mapping String
  structuredBlocks : List (Option Published)

/-- `reading.meta(*names)`: the first of several metadata names that this page published. -/
def PageReading.metaValue (reading : PageReading) (names : List String) : Option String :=
  names.findSome? fun name =>
    (reading.metadata.get? name).bind fun value =>
      if isBlank value then none else some (strip value)

def maxStructuredDepth : Nat := 6

def maxVariants : Nat := maxVariantsPerProduct

def maxAvailabilityText : Nat := 120

def priceAmountTags : List String := ["product:price:amount", "og:price:amount"]

def priceCurrencyTags : List String := ["product:price:currency", "og:price:currency"]

def availabilityTags : List String := ["product:availability", "og:availability", "availability"]

def identifierTags : List String :=
  ["product:retailer_item_id", "product:sku", "product:mpn", "og:sku"]

def titleTags : List String := ["og:title", "twitter:title"]

def descriptionTags : List String := ["og:description", "description", "twitter:description"]

def categoryTags : List String := ["product:category", "article:section"]

def productTypes : List String := ["product", "productgroup", "productmodel"]

def breadcrumbType : String := "breadcrumblist"

def inStockTokens : List String :=
  ["instock", "in stock", "instoreonly", "onlineonly", "limitedavailability", "in_stock"]

def outOfStockTokens : List String :=
  ["outofstock", "out of stock", "soldout", "sold out", "discontinued", "out_of_stock", "oos"]

/-- `text[:limit]`. -/
def cut (limit : Nat) (text : String) : String :=
  String.ofList (text.toList.take limit)

/-! ## Nodes -/

/-- `_collect`, for so many further levels. -/
def collect : Nat → Published → List Node → List Node
  | 0, _, out => out
  | levels + 1, value, out =>
      if out.length > 200 then
        out
      else
        match value with
        | .array items => items.foldl (fun out item => collect levels item out) out
        | .object fields =>
            let out := out ++ [fields]
            let out := match get fields "@graph" with
              | .null => out
              | graph => collect levels graph out
            match get fields "mainEntity" with
            | .null => out
            | main => collect levels main out
        | _ => out

/-- `structured_nodes`. -/
def structuredNodes (reading : PageReading) : List Node × Nat :=
  (reading.structuredBlocks.foldl (fun out block =>
      match block with
      | some value => collect (maxStructuredDepth + 1) value out
      | none => out) [],
    reading.structuredBlocks.countP Option.isNone)

/-- A list of values, or the one value that stands in its place. -/
def listed : Published → List Published
  | .array items => items
  | single => [single]

def asNode : Published → Option Node
  | .object fields => some fields
  | _ => none

/-- The truth value that Python's `or` asks for. -/
def isTruthy : Published → Bool
  | .null => false
  | .boolean value => value
  | .integer value => value != 0
  | .decimal value => value.coefficient != 0
  | .float _ => true
  | .string text => !text.isEmpty
  | .array items => !items.isEmpty
  | .object fields => !fields.isEmpty

section Reading

variable [CharacterTables] [Representations] [UpperCase] [Sha256]

/-- `_text`. -/
def textOf : Published → Option String
  | .string text => if (collapse text).isEmpty then none else some (collapse text)
  | .integer value => some (toString value)
  | .decimal value => some (Representations.decimal value)
  | _ => none

/-- The text of the first of some values that is text. -/
def firstText (values : List Published) : Option String :=
  values.findSome? textOf

/-- What a repeated reference to a node shares: its `@id`, or the node itself. -/
def nodeKey (node : Node) : String :=
  match get node "@id" with
  | .string identity => if isBlank identity then cut 4096 (Representations.dumps node) else identity
  | _ => cut 4096 (Representations.dumps node)

/-- `_product_nodes`. -/
def productNodes (nodes : List Node) : List Node :=
  (nodes.foldl (fun (found : List Node × List String) node =>
    if (types node).any (productTypes.contains ·) ∧ nodeKey node ∉ found.2 then
      (found.1 ++ [node], nodeKey node :: found.2)
    else found) ([], [])).1

/-- `_offers`. -/
def offersOf (node : Node) : List Node :=
  ((listed (get node "offers")).filterMap asNode).flatMap fun candidate =>
    if aggregateOfferType ∈ types candidate then
      match (listed (get candidate "offers")).filterMap asNode with
      | [] => [candidate]
      | real => real
    else [candidate]

/-- A variant's node and its offers.  The node can be the product's own. -/
structure VariantEntry where
  owner : Node
  isProduct : Bool
  offers : List Node

/-- `_variant_entries`. -/
def variantEntries (node : Node) : Option (List VariantEntry) :=
  let published := match get node "hasVariant" with
    | .array variants =>
        ((variants.filterMap asNode).filter fun item => !(offersOf item).isEmpty).map fun item =>
          { owner := item, isProduct := false, offers := offersOf item : VariantEntry }
    | _ => []
  if published.isEmpty then
    match offersOf node with
    | [] => none
    | offers =>
        some (offers.map fun offer => { owner := node, isProduct := true, offers := [offer] })
  else
    some published

/-- `_variant_label`. -/
def variantLabel (entry : VariantEntry) (product : Node) : Option String :=
  let name := textOf (get entry.owner "name")
  if !entry.isProduct && name.isSome && name != textOf (get product "name") then
    name
  else
    ["color", "size", "variesBy", "material", "pattern"].findSome? fun key =>
      match get entry.owner key with
      | .string value => if isBlank value then none else some (collapse value)
      | .array items =>
          let parts := items.filterMap fun item =>
            match item with
            | .string part => if isBlank part then none else some (collapse part)
            | _ => none
          if parts.isEmpty then none else some (" / ".intercalate parts)
      | _ => none

/-- What an availability text says about stock. -/
def availabilityState (text : String) : AvailabilityEvidence :=
  let token := lower (strip (String.ofList (afterLast '/' text.toList)))
  if token ∈ inStockTokens then .inStock
  else if token ∈ outOfStockTokens then .outOfStock
  else .unknown

/-- An availability text as it was published, and the state that it is read as. -/
def availabilityOfText : Option String → AvailabilityEvidence × Option String
  | none => (.unknown, none)
  | some text => (availabilityState text, some (cut maxAvailabilityText text))

/-- `_availability`. -/
def availabilityOf (offer owner : Node) : AvailabilityEvidence × Option String :=
  match get offer "availability" with
  | .null => availabilityOfText (textOf (get owner "availability"))
  | published => availabilityOfText (textOf published)

/-- `_inventory_level`. -/
def inventoryLevel (offer owner : Node) : Option Int :=
  match (offer.lookup "inventoryLevel").or (owner.lookup "inventoryLevel") with
  | none => none
  | some published =>
      let value := match published with
        | .object fields => get fields "value"
        | single => single
      match value with
      | .integer count => if 0 ≤ count ∧ count ≤ maxInventoryQuantity then some count else none
      | _ => none

/-- The state that a count of units implies. -/
def impliedState (quantity : Int) : AvailabilityEvidence :=
  if quantity = 0 then .outOfStock else .inStock

/-- A variant that is read, but for its SKU: the string that the SKU is given for. -/
structure VariantReading where
  rawSku : String
  label : Option String
  priceAmountMinor : Int
  currency : String
  availability : AvailabilityEvidence
  availabilityText : Option String
  inventoryQuantity : Option Int

/-- The price of an offer, or the reason why it is not read. -/
def pricedAt (sourceUrl : String) (offer product : Node) : Except Omission (Int × String) :=
  let declared := get offer "priceCurrency"
  let read := do
    let currency ← normalizeCurrency
      (if isTruthy declared then declared else get product "priceCurrency")
    return (← offeredAmount offer currency, currency)
  match read with
  | .error (.refused refused) =>
      .error { sourceUrl := sourceUrl, reason := refused.reason, detail := refused.detail }
  | .error (.decimal _) =>
      -- Nothing raises it: every decimal operation is under a handler.
      .error { sourceUrl := sourceUrl, reason := "", detail := "" }
  | .ok (none, _) =>
      .error
        { sourceUrl := sourceUrl
          reason := "price_conflict"
          detail := "this page publishes a price range rather than a price" }
  | .ok (some amount, currency) => .ok (amount, currency)

/-- The string that a variant's SKU is given for. -/
def rawSkuOf (sourceUrl : String) (entry : VariantEntry) (offer product : Node) (index : Nat) :
    Option String :=
  match firstText [get offer "sku", get entry.owner "sku", get offer "mpn", get entry.owner "mpn",
      get offer "gtin13", get entry.owner "gtin13"] with
  | some raw => some raw
  | none =>
      match entry.isProduct, variantLabel entry product with
      | false, some distinguishing => some (sourceUrl ++ "#" ++ distinguishing)
      | false, none => none
      | true, _ =>
          if index = 0 then
            some ((textOf (get product "sku")).getD (sourceUrl ++ "#only"))
          else none

/-- Whether a published state contradicts a published count. -/
def contradicts (availability : AvailabilityEvidence) (text : Option String) (quantity : Int) :
    Bool :=
  let unreadable := availability == .unknown && text.isSome
  unreadable || (availability != .unknown && impliedState quantity != availability)

/-- `_variant`, but for the SKU that is assigned last. -/
def readVariant (sourceUrl : String) (product : Node) (index : Nat) (entry : VariantEntry) :
    Except Omission VariantReading := do
  match entry.offers with
  | [offer] =>
      let (amount, currency) ← pricedAt sourceUrl offer product
      match rawSkuOf sourceUrl entry offer product index with
      | none =>
          .error
            { sourceUrl := sourceUrl
              reason := "variant_ambiguous"
              detail := "this page publishes variants with nothing to tell them apart, so" ++
                " AgentRank cannot give them stable identities" }
      | some rawSku =>
          let (availability, text) := availabilityOf offer entry.owner
          let quantity := inventoryLevel offer entry.owner
          if quantity.any (contradicts availability text) then
            .error
              { sourceUrl := sourceUrl
                reason := "availability_conflict"
                detail :=
                  "this page publishes an availability and an inventory level that disagree" }
          else
            let label := variantLabel entry product
            if label.any instructionLike || text.any instructionLike then
              .error
                { sourceUrl := sourceUrl
                  reason := "instruction_like"
                  detail := "this page addresses whatever reads it, so it is not imported" }
            else
              .ok
                { rawSku := rawSku
                  label := label.map (cut Representation.maxLabelLength)
                  priceAmountMinor := amount
                  currency := currency
                  availability := (quantity.map impliedState).getD availability
                  availabilityText := text
                  inventoryQuantity := quantity }
  | _ =>
      .error
        { sourceUrl := sourceUrl
          reason := "variant_ambiguous"
          detail := "this page publishes several offers for one variant and AgentRank cannot" ++
            " tell which one is the price" }

/-- `_fallback_title`. -/
def fallbackTitle (reading : PageReading) : Option String :=
  [reading.heading, reading.title].findSome? fun candidate =>
    candidate.bind fun text => if isBlank text then none else some (collapse text)

/-- `_bounded`. -/
def boundedText (value : Option String) (limit : Nat) : Option String × Bool :=
  match value with
  | none => (none, false)
  | some text =>
      let collapsed := collapse text
      if collapsed.isEmpty then (none, false)
      else if collapsed.length ≤ limit then (some collapsed, false)
      else (some (String.ofList ((collapsed.toList.take limit).rdropWhile isSpace)), true)

/-- `_bounded_category`. -/
def boundedCategory (value : Option String) : Option String :=
  value.bind fun text =>
    let collapsed := collapse text
    if collapsed.isEmpty || instructionLike collapsed then none
    else some (cut maxCategoryLength collapsed)

/-- `_breadcrumb_category`. -/
def breadcrumbCategory (nodes : List Node) (title : String) : Option String :=
  let trails := nodes.filterMap fun candidate =>
    if breadcrumbType ∈ types candidate then
      match get candidate "itemListElement" with
      | .array elements =>
          let names := (elements.filterMap asNode).filterMap fun element =>
            let name := (textOf (get element "name")).or
              ((asNode (get element "item")).bind fun item => textOf (get item "name"))
            name.filter (· != title)
          names.getLast?
      | _ => none
    else none
  boundedCategory trails.head?

/-- `_category`. -/
def categoryOf (node : Node) (nodes : List Node) (title : String) : Option String :=
  match get node "category" with
  | .string published =>
      if isBlank published then breadcrumbCategory nodes title
      else boundedCategory (some published)
  | .array items =>
      let published := items.findSome? fun item =>
        match item with
        | .string text => if isBlank text then none else some text
        | _ => none
      match published with
      | some text => boundedCategory (some text)
      | none => breadcrumbCategory nodes title
  | .object fields =>
      match textOf (get fields "name") with
      | some name => boundedCategory (some name)
      | none => breadcrumbCategory nodes title
  | _ => breadcrumbCategory nodes title

/-- `_instruction_like_field`. -/
def addressesReader (node : Node) (title : String) (reading : PageReading) : Bool :=
  [some title, textOf (get node "description"), reading.metaValue descriptionTags].any fun value =>
    value.any instructionLike

/-- The price that a page's metadata states, when it is read. -/
def metadataPrice (published : String) (declared : Option String) :
    Except PriceFailure (Int × String) := do
  let currency ← normalizeCurrency ((declared.map Published.string).getD .null)
  return (← minorUnits (.string published) currency, currency)

/-- `_metadata_price_conflict`. -/
def metadataPriceConflict (reading : PageReading) (variants : List DraftVariant)
    (sourceUrl : String) : Option Omission :=
  match variants, reading.metaValue priceAmountTags, reading.metaValue priceCurrencyTags with
  | [variant], some published, some declared =>
      match metadataPrice published (some declared) with
      | .ok (amount, currency) =>
          if amount = variant.priceAmountMinor ∧ currency = variant.currency then
            none
          else
            some
              { sourceUrl := sourceUrl
                reason := "price_conflict"
                detail := "this page publishes two different prices for this product, one in" ++
                  " its structured data and one in its page metadata"
                subject := some variant.sku }
      | .error _ => none
  | _, _, _ => none

/-! ## Assigned identities -/

/-- The identifiers of the products and of the variants of one import. -/
structure Identifiers where
  products : Taken := []
  skus : Taken := []

/-- A reading that assigns identifiers.  What it assigned stays when it raises. -/
abbrev Naming :=
  ExceptT IdentityCollisionError (StateM Identifiers)

/-- `identifiers.product(raw)`. -/
def productId (raw : String) : Naming String := fun identifiers =>
  let (answer, taken) := assign identifiers.products raw
  (answer, { identifiers with products := taken })

/-- `identifiers.sku(raw)`. -/
def skuFor (raw : String) : Naming String := fun identifiers =>
  let (answer, taken) := assign identifiers.skus raw
  (answer, { identifiers with skus := taken })

/-- `_variant`. -/
def variantOf (sourceUrl : String) (product : Node) (index : Nat) (entry : VariantEntry) :
    Naming (Except Omission DraftVariant) :=
  match readVariant sourceUrl product index entry with
  | .error omission => pure (.error omission)
  | .ok reading => do
      let sku ← skuFor reading.rawSku
      pure (.ok
        { sku := sku
          label := reading.label
          priceAmountMinor := reading.priceAmountMinor
          currency := reading.currency
          availability := reading.availability
          availabilityText := reading.availabilityText
          inventoryQuantity := reading.inventoryQuantity })

/-- The variants of a product's entries, or the reason why the product is left out. -/
def variantsOf (sourceUrl : String) (product : Node) :
    Nat → List VariantEntry → List DraftVariant → Naming (Except Omission (List DraftVariant))
  | _, [], variants => pure (.ok variants)
  | index, entry :: rest, variants => do
      match ← variantOf sourceUrl product index entry with
      | .error omission => pure (.error omission)
      | .ok built =>
          match variants.find? fun settled => settled.sku = built.sku with
          | none => variantsOf sourceUrl product (index + 1) rest (variants ++ [built])
          | some settled =>
              if settled.priceAmountMinor = built.priceAmountMinor ∧
                  settled.currency = built.currency then
                pure (.error
                  { sourceUrl := sourceUrl
                    reason := "variant_ambiguous"
                    detail := "this page publishes two variants under one SKU"
                    subject := some built.sku })
              else
                pure (.error
                  { sourceUrl := sourceUrl
                    reason := "price_conflict"
                    detail := "this page publishes two different prices for one SKU"
                    subject := some built.sku })

/-- `_external_identity`. -/
def externalIdentity (node : Node) (sourceUrl : String) : Naming String :=
  productId ((firstText [get node "sku", get node "productID", get node "mpn",
    get node "@id"]).getD sourceUrl)

/-- The variants that a product keeps, and what is said when some are cut. -/
def keptVariants (sourceUrl : String) (variants : List DraftVariant) :
    List DraftVariant × List Finding :=
  if variants.length > maxVariants then
    (variants.take maxVariants,
      [{ sourceUrl := sourceUrl
         code := "variants_truncated"
         detail := s!"this page publishes {variants.length} variants and AgentRank imported the" ++
          s!" first {maxVariants}" }])
  else (variants, [])

/-- What is said when a description is cut. -/
def descriptionFindings (sourceUrl : String) (truncated : Bool) : List Finding :=
  if truncated then
    [{ sourceUrl := sourceUrl
       code := "description_truncated"
       detail := "the description was cut to fit a source" }]
  else []

/-- A product from structured data, once its variants are known. -/
def structuredProduct (node : Node) (reading : PageReading) (sourceUrl : String)
    (nodes : List Node) (title : String) (variants : List DraftVariant) :
    Naming ProductExtraction := do
  let (kept, cutFindings) := keptVariants sourceUrl variants
  match metadataPriceConflict reading kept sourceUrl with
  | some conflict => pure (.omitted conflict cutFindings)
  | none =>
      let external ← externalIdentity node sourceUrl
      let (description, truncated) := boundedText (textOf (get node "description"))
        maxDescriptionLength
      pure
        { product := some
            { externalId := external
              title := cut maxTitleLength title
              description := description
              category := categoryOf node nodes title
              sourceUrl := sourceUrl
              extraction := .structuredData
              variants := kept }
          omission := none
          findings := cutFindings ++ descriptionFindings sourceUrl truncated }

/-- `_from_structured`. -/
def fromStructured (node : Node) (reading : PageReading) (sourceUrl : String)
    (nodes : List Node) : Naming (Option ProductExtraction) := do
  match variantEntries node with
  | none => pure none
  | some entries =>
      match (textOf (get node "name")).or (fallbackTitle reading) with
      | none =>
          pure (some (.omitted
            { sourceUrl := sourceUrl
              reason := "title_missing"
              detail := "this page publishes no product title" }))
      | some title =>
          if addressesReader node title reading then
            pure (some (.omitted
              { sourceUrl := sourceUrl
                reason := "instruction_like"
                detail := "this page addresses whatever reads it, so it is not imported" }))
          else
            match ← variantsOf sourceUrl node 0 entries [] with
            | .error omission => pure (some (.omitted omission))
            | .ok [] => pure none
            | .ok variants =>
                some <$> structuredProduct node reading sourceUrl nodes title variants

/-- `_from_metadata`. -/
def fromMetadata (reading : PageReading) (sourceUrl : String) (nodes : List Node) :
    Naming ProductExtraction := do
  match reading.metaValue priceAmountTags with
  | none =>
      pure (.omitted
        { sourceUrl := sourceUrl
          reason := "price_missing"
          detail := "this page publishes no machine readable price, so AgentRank cannot import" ++
            " it without guessing one" })
  | some published =>
      match metadataPrice published (reading.metaValue priceCurrencyTags) with
      | .error (.refused refused) =>
          pure (.omitted
            { sourceUrl := sourceUrl, reason := refused.reason, detail := refused.detail })
      | .error (.decimal _) =>
          pure (.omitted { sourceUrl := sourceUrl, reason := "", detail := "" })
      | .ok (amount, currency) =>
          match (reading.metaValue titleTags).or (fallbackTitle reading) with
          | none =>
              pure (.omitted
                { sourceUrl := sourceUrl
                  reason := "title_missing"
                  detail := "this page publishes no product title" })
          | some title =>
              let (description, truncated) :=
                boundedText (reading.metaValue descriptionTags) maxDescriptionLength
              let rawSku := (reading.metaValue identifierTags).getD sourceUrl
              let (availability, text) := availabilityOfText (reading.metaValue availabilityTags)
              if [some title, description, text].any fun value => value.any instructionLike then
                pure (.omitted
                  { sourceUrl := sourceUrl
                    reason := "instruction_like"
                    detail := "this page addresses whatever reads it, so it is not imported" })
              else
                let external ← productId rawSku
                let sku ← skuFor rawSku
                pure
                  { product := some
                      { externalId := external
                        title := cut maxTitleLength title
                        description := description
                        category := (categoryOf [] nodes title).or
                          (boundedCategory (reading.metaValue categoryTags))
                        sourceUrl := sourceUrl
                        extraction := .pageMetadata
                        variants :=
                          [{ sku := sku
                             label := none
                             priceAmountMinor := amount
                             currency := currency
                             availability := availability
                             availabilityText := text }] }
                    omission := none
                    findings := descriptionFindings sourceUrl truncated }

/-- What a page is read as, as long as no identifier collides. -/
def readProduct (reading : PageReading) (sourceUrl : String) : Naming ProductExtraction := do
  let (nodes, _) := structuredNodes reading
  match productNodes nodes with
  | [] => fromMetadata reading sourceUrl nodes
  | node :: _ =>
      match ← fromStructured node reading sourceUrl nodes with
      | some structured => pure structured
      | none => fromMetadata reading sourceUrl nodes

/-- What is said about the blocks that could not be parsed. -/
def malformedFindings (sourceUrl : String) (malformed : Nat) : List Finding :=
  if malformed = 0 then []
  else
    [{ sourceUrl := sourceUrl
       code := "structured_data_malformed"
       detail := s!"{malformed} structured data block(s) on this page could not be parsed" }]

/-- A page whose identifier would collide with one already imported. -/
def collided (sourceUrl : String) (collision : IdentityCollisionError) : Omission where
  sourceUrl := sourceUrl
  reason := "identifier_collision"
  detail := "an identifier on this page would collide with one already imported, and AgentRank" ++
    " will not rename either of them"
  subject := some collision.candidate

/-- `extract_product`. -/
def extractProduct (reading : PageReading) (sourceUrl : String) (identifiers : Identifiers) :
    ProductExtraction × Identifiers :=
  let (nodes, malformed) := structuredNodes reading
  let findings := malformedFindings sourceUrl malformed
  if (productNodes nodes).length > 1 then
    (.omitted
      { sourceUrl := sourceUrl
        reason := "several_products"
        detail := "this page publishes more than one product, so AgentRank cannot tell which" ++
          " one it is about" } findings, identifiers)
  else
    match readProduct reading sourceUrl identifiers with
    | (.ok outcome, assigned) =>
        ({ outcome with findings := findings ++ outcome.findings }, assigned)
    | (.error collision, assigned) => (.omitted (collided sourceUrl collision) findings, assigned)

end Reading

end AgentRank.Importer
