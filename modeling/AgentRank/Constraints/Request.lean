import AgentRank.Store.Session

/-!
# Qualifying a mandate with hard constraints

This module models the hard constraint union of `mandates/intent.py` and
`constraints/service.py`: a request states hard constraints, its enforceable
ones become authoritative specifications, its financial ones are checked against
the mandate and never stored, and both happen in one transaction.
-/

namespace AgentRank.Constraints

open Text Relational Store Transaction

def maxHardConstraints : Nat := 20

/-- The hard constraints a buyer can state. -/
inductive HardConstraint
  | maxTotalAmount (amountMinor : Int) (currency : String)
  | maxQuantity (quantity : Int)
  | requiredAttribute (name : String) (operator : ConstraintOperator)
      (value : ConstraintValue)
  | allowedCategory (category : String)
deriving DecidableEq

def validateAmountMinor (amountMinor : Int) : Except ValueError Unit :=
  if amountMinor < 0 then
    .error
      { message := s!"amount in minor units must not be negative, got {amountMinor}" }
  else .ok ()

/-- Exactly three uppercase ASCII letters. -/
def isCurrencyCode (currency : String) : Bool :=
  currency.toList.length == 3 &&
    currency.toList.all fun char => 'A' ≤ char && char ≤ 'Z'

theorem isCurrencyCode_inr : isCurrencyCode "INR" = true := by
  decide +kernel

def validateCurrency (currency : String) : Except ValueError Unit :=
  if isCurrencyCode currency then .ok ()
  else
    .error
      { message := "currency must match ^[A-Z]\x7b3\x7d$, got "
        got := some (.string currency) }

/-- `_require_text`. -/
def requireText (value label : String) (limit : Option Nat) :
    Except ValueError Unit :=
  if isBlank value then .error { message := s!"{label} must not be blank" }
  else
    match limit with
    | none => .ok ()
    | some bound =>
        if bound < value.length then
          .error { message := s!"{label} must be at most {bound} characters" }
        else .ok ()

/-- The `__post_init__` of the constraint's own class. -/
def HardConstraint.validate : HardConstraint → Except ValueError Unit
  | maxTotalAmount amountMinor currency => do
      validateAmountMinor amountMinor
      validateCurrency currency
  | maxQuantity quantity =>
      if quantity ≤ 0 then
        .error { message := s!"max quantity must be positive, got {quantity}" }
      else .ok ()
  | requiredAttribute name operator value => do
      requireText name "attribute name" (some maxAttributeKeyLength)
      validateConstraintValue operator value
  | allowedCategory category => requireText category "category" none

/-- Whether a constraint is financial, and therefore never stored. -/
def HardConstraint.isFinancial : HardConstraint → Bool
  | maxTotalAmount _ _ => true
  | maxQuantity _ => true
  | _ => false

variable [CaseFolding]

/-- The accumulators of the loop in `semantic_specs`. -/
structure SpecScan where
  specs : List (Option IntentConstraintSpec) := []
  categories : List String := []
  seen : List String := []
  categorySlot : Option Nat := none

/-- Note one allowed category, once for each normalized text. -/
def SpecScan.noteCategory (scan : SpecScan) (category : String) : SpecScan :=
  if normalizeText category ∈ scan.seen then scan
  else
    { scan with
      seen := normalizeText category :: scan.seen
      categories := scan.categories ++ [category] }

/-- Hold a place for the membership rule where the first category stood. -/
def SpecScan.holdSlot (scan : SpecScan) : SpecScan :=
  match scan.categorySlot with
  | some _ => scan
  | none =>
      { scan with
        categorySlot := some scan.specs.length
        specs := scan.specs ++ [none] }

/-- One turn of the loop in `semantic_specs`. -/
def SpecScan.step (scan : SpecScan) : HardConstraint → Except ValueError SpecScan
  | .allowedCategory category => .ok (scan.noteCategory category).holdSlot
  | .requiredAttribute name operator value => do
      let spec ← IntentConstraintSpec.requiredAttribute name operator value
      .ok { scan with specs := scan.specs ++ [some spec] }
  | .maxTotalAmount _ _ => .ok scan
  | .maxQuantity _ => .ok scan

/-- The stored constraints, with the membership rule in its slot. -/
def SpecScan.finish (scan : SpecScan) :
    Except ValueError (List IntentConstraintSpec) :=
  match scan.categorySlot with
  | none => .ok scan.specs.reduceOption
  | some slot => do
      let rule ← IntentConstraintSpec.allowedCategories scan.categories
      .ok (scan.specs.set slot (some rule)).reduceOption

/-- `NewIntentConstraints.semantic_specs`. -/
def semanticSpecs (hardConstraints : List HardConstraint) :
    Except ValueError (List IntentConstraintSpec) := do
  let scan ← hardConstraints.foldlM SpecScan.step {}
  scan.finish

/-- What two constraints share when they are rules about the same thing. -/
def targetKey (spec : IntentConstraintSpec) : Option String :=
  spec.fields.attributeKey.map normalizeText

/-- What `NewIntentConstraints.__post_init__` requires of its constraints. -/
def validateHardConstraints (hardConstraints : List HardConstraint) :
    Except ValueError (List IntentConstraintSpec) := do
  if hardConstraints.isEmpty then
    .error { message := "at least one hard constraint is required" }
  else if maxHardConstraints < hardConstraints.length then
    .error
      { message := s!"at most {maxHardConstraints} hard constraints are allowed" }
  else
    let specs ← semanticSpecs hardConstraints
    let targets := specs.map fun spec =>
      (spec.fields.kind, targetKey spec, spec.fields.operator)
    if specs.isEmpty then
      .error
        { message :=
            "at least one allowed_category or required_attribute constraint is required" }
    else if targets.dedup.length ≠ targets.length then
      .error
        { message := "two hard constraints state the same rule for the same attribute" }
    else .ok specs

/-- A request to qualify one mandate.  It carries the specifications its own
validation computed, so a refused request cannot be built. -/
structure NewIntentConstraints where
  merchantId : Uuid
  mandateId : Uuid
  hardConstraints : List HardConstraint
  specs : List IntentConstraintSpec
  accepted : validateHardConstraints hardConstraints = .ok specs

/-- `NewIntentConstraints.__init__`. -/
def NewIntentConstraints.make (merchantId mandateId : Uuid)
    (hardConstraints : List HardConstraint) :
    Except ValueError NewIntentConstraints :=
  match h : validateHardConstraints hardConstraints with
  | .ok specs => .ok ⟨merchantId, mandateId, hardConstraints, specs, h⟩
  | .error refusal => .error refusal

/-- `NewIntentConstraints.financial_constraints`. -/
def NewIntentConstraints.financialConstraints (request : NewIntentConstraints) :
    List HardConstraint :=
  request.hardConstraints.filter HardConstraint.isFinancial

/-! ## The service -/

/-- How an optional ceiling is printed. -/
def optionalNumber : Option Nat → String
  | none => "None"
  | some value => toString value

/-- `_check_against_mandate`: refuse a mandate that permits more than the buyer
stated. -/
def checkAgainstMandate (mandate : SpendingMandate) :
    HardConstraint → Except Failure Unit
  | .maxTotalAmount amountMinor currency =>
      if currency ≠ mandate.currency then
        .error
          (.conflict "mandate_currency_mismatch"
            s!"the stated limit is in {currency} and the mandate authorizes {mandate.currency}"
            (some "mandate") (some (toString mandate.id)))
      else if amountMinor < (mandate.maxTotalAmountMinor : Int) then
        .error
          (.conflict "mandate_exceeds_intent_limit"
            s!"the mandate authorizes {mandate.maxTotalAmountMinor} {mandate.currency} and the buyer stated a limit of {amountMinor} {currency}"
            (some "mandate") (some (toString mandate.id)))
      else .ok ()
  | .maxQuantity quantity =>
      let refusal : Failure :=
        .conflict "mandate_exceeds_intent_limit"
          s!"the mandate authorizes {optionalNumber mandate.maxQuantity} units and the buyer stated a limit of {quantity}"
          (some "mandate") (some (toString mandate.id))
      match mandate.maxQuantity with
      | none => .error refusal
      | some ceiling => if quantity < (ceiling : Int) then .error refusal else .ok ()
  | .requiredAttribute _ _ _ => .ok ()
  | .allowedCategory _ => .ok ()

/-- `MandateRepository.get`: one merchant's mandate. -/
def findMandate (database : Database) (mandateId merchantId : Uuid) :
    Option SpendingMandate :=
  (database.mandates.get? mandateId).filter fun mandate =>
    mandate.merchantId == merchantId

/-- `IntentConstraintRepository.get_for_mandate`. -/
def findConstraintSet (database : Database) (mandateId merchantId : Uuid) :
    Option IntentConstraintSet :=
  database.constraintSets.rows.find? fun constraintSet =>
    constraintSet.mandateId == mandateId && constraintSet.merchantId == merchantId

/-- `IntentConstraintSpec.to_summary`. -/
def constraintSummary (spec : IntentConstraintSpec) : Json :=
  .object
    [("kind",
        Payload.text
          (match spec.fields.kind with
            | .allowedCategory => "allowed_category"
            | .requiredAttribute => "required_attribute")),
      ("attribute", Payload.optionalText spec.fields.attributeKey),
      ("operator", Payload.text spec.fields.operator.value),
      ("value", spec.fields.value.toStoredValue)]

/-- `_created_payload`. -/
def constraintsCreatedPayload (request : NewIntentConstraints) :
    List (String × Json) :=
  [("mandate_id", Payload.uuid request.mandateId),
    ("constraint_count", Payload.number request.specs.length),
    ("constraints", .array (request.specs.map constraintSummary)),
    ("financial_constraints_checked",
      Payload.number request.financialConstraints.length)]

/-- The rows `IntentConstraintRepository.create` writes. -/
def constraintSetRow (request : NewIntentConstraints) (setId : Uuid)
    (constraintId : Nat → Uuid) : IntentConstraintSet where
  id := setId
  merchantId := request.merchantId
  mandateId := request.mandateId
  constraints := request.specs.mapIdx fun index spec =>
    { id := constraintId index, fields := spec.fields }

/-- Insert a constraint set.  One mandate has at most one, which the unique
constraint on `mandate_id` repeats for two creations that race. -/
def insertConstraintSet (row : IntentConstraintSet) : Session PUnit := do
  let database ← get
  Transaction.refuseWhen
    (database.constraintSets.rows.any fun other => other.mandateId == row.mandateId)
    (.conflict "constraints_already_exist"
      "this mandate is already qualified by a constraint set"
      (some "mandate") (some (toString row.mandateId)))
  let constraintSets ←
    Transaction.require (database.constraintSets.insert? row)
      (.integrityError "pk_intent_constraint_set")
  set { database with constraintSets := constraintSets }

/-- `IntentConstraintService.create_constraints`. -/
def createConstraints (request : NewIntentConstraints)
    (capability : Option BenchmarkRunCapability) (credentialId : Option Uuid)
    (setId : Uuid) (constraintId : Nat → Uuid) : Session IntentConstraintSet := do
  requireAllowed request.merchantId capability
  let database ← get
  let _ ←
    Transaction.require (database.merchants.get? request.merchantId)
      (.notFound "merchant" (toString request.merchantId))
  let mandate ←
    Transaction.require (findMandate database request.mandateId request.merchantId)
      (.notFound "mandate" (toString request.mandateId))
  Transaction.refuseWhen (mandate.status ≠ .active)
    (.conflict "mandate_revoked"
      s!"mandate {mandate.id} has been revoked and authorizes nothing"
      (some "mandate") (some (toString mandate.id)))
  Transaction.refuseWhen
    (findConstraintSet database mandate.id mandate.merchantId).isSome
    (.conflict "constraints_already_exist"
      s!"mandate {mandate.id} is already qualified by a constraint set"
      (some "mandate") (some (toString mandate.id)))
  Transaction.lift
    (forM request.financialConstraints (checkAgainstMandate mandate))
  let row := constraintSetRow request setId constraintId
  insertConstraintSet row
  appendAudit
    { merchantId := row.merchantId
      actorType := .buyer
      credentialId := credentialId
      eventType := .intentConstraintsCreated
      resourceType := "intent_constraint_set"
      resourceId := row.id
      payload := constraintsCreatedPayload request }
  pure row

/-- What a committed creation found and wrote: an active mandate that permits no
more than was stated, and the rows of the request. -/
theorem createConstraints_eq_ok {request : NewIntentConstraints}
    {capability : Option BenchmarkRunCapability} {credentialId : Option Uuid}
    {setId : Uuid} {constraintId : Nat → Uuid} {database final : Database}
    {row : IntentConstraintSet}
    (committed :
      createConstraints request capability credentialId setId constraintId database =
        .ok (row, final)) :
    row = constraintSetRow request setId constraintId ∧
      ∃ mandate, findMandate database request.mandateId request.merchantId = some mandate ∧
        mandate.status = .active ∧
        ∀ constraint ∈ request.financialConstraints,
          checkAgainstMandate mandate constraint = .ok () := by
  unfold createConstraints at committed
  simp only [bind_eq_ok_iff, requireAllowed_eq_ok_iff,
    get_eq_ok_iff, require_eq_ok_iff,
    refuseWhen_eq_ok_iff, lift_eq_ok_iff,
    pure_eq_ok_iff] at committed
  obtain ⟨_, _, ⟨_, rfl⟩, read, _, ⟨rfl, rfl⟩, _, _, ⟨_, rfl⟩, mandate, _,
    ⟨mandateEq, rfl⟩, _, _, ⟨active, rfl⟩, _, _, ⟨_, rfl⟩, _, _, ⟨checked, rfl⟩,
    _, _, _, _, _, _, rowEq, _⟩ := committed
  refine ⟨rowEq, mandate, mandateEq, not_not.mp active, ?_⟩
  exact Transaction.forM_eq_ok_iff.mp checked

end AgentRank.Constraints
