import AgentRank.Constraints.Request
import AgentRank.Store.Columns

/-!
# Granting a mandate

This module models `mandates/intent.py`, the request models of `mandates/schemas.py`, and
`MandateService.create_mandate` of `mandates/service.py`.  An intent is context: it is recorded in
the event that a mandate was created, and nothing reads it back.
-/

namespace AgentRank.Mandates

open Constraints Relational Store Transaction

def maxDescriptionLength : Nat := 1000
def maxStatementLength : Nat := 200
def maxPreferences : Nat := 20

inductive ConstraintKind
  | maxTotalAmount
  | maxQuantity
  | requiredAttribute
  | allowedCategory
deriving DecidableEq

def ConstraintKind.value : ConstraintKind → String
  | maxTotalAmount => "max_total_amount"
  | maxQuantity => "max_quantity"
  | requiredAttribute => "required_attribute"
  | allowedCategory => "allowed_category"

/-- The kinds that answer a question with one answer, in the order of their values. -/
def singleValuedKinds : List ConstraintKind :=
  [.maxQuantity, .maxTotalAmount]

def kindOf : HardConstraint → ConstraintKind
  | .maxTotalAmount _ _ => .maxTotalAmount
  | .maxQuantity _ => .maxQuantity
  | .requiredAttribute _ _ _ => .requiredAttribute
  | .allowedCategory _ => .allowedCategory

/-- A whole number as a payload writes it. -/
def wholeNumber (value : Int) : Json :=
  .scalar (.number (.finite value))

/-- `to_payload` of a hard constraint. -/
def constraintPayload (constraint : HardConstraint) : Json :=
  .object
    (("kind", Payload.text (kindOf constraint).value) ::
      match constraint with
      | .maxTotalAmount amountMinor currency =>
          [("amount_minor", wholeNumber amountMinor), ("currency", Payload.text currency)]
      | .maxQuantity quantity => [("quantity", wholeNumber quantity)]
      | .requiredAttribute name operator value =>
          [("name", Payload.text name), ("operator", Payload.text operator.value),
            ("value", value.toStoredValue)]
      | .allowedCategory category => [("category", Payload.text category)])

structure BuyerIntent where
  merchantId : Uuid
  description : String
  hardConstraints : List HardConstraint
  preferences : List String

/-- `BuyerIntent.__post_init__`. -/
def BuyerIntent.validate (intent : BuyerIntent) : Except ValueError Unit := do
  requireText intent.description "description" (some maxDescriptionLength)
  if maxHardConstraints < intent.hardConstraints.length then
    .error { message := s!"at most {maxHardConstraints} hard constraints are allowed" }
  else if maxPreferences < intent.preferences.length then
    .error { message := s!"at most {maxPreferences} preferences are allowed" }
  else
    let repeated := singleValuedKinds.filter fun kind =>
      1 < (intent.hardConstraints.map kindOf).count kind
    if repeated.isEmpty then .ok ()
    else
      let named := ", ".intercalate (repeated.map ConstraintKind.value)
      .error { message := s!"conflicting hard constraints: {named}" }

/-- `BuyerIntent.to_payload`. -/
def BuyerIntent.toPayload (intent : BuyerIntent) : Json :=
  .object
    [("merchant_id", Payload.uuid intent.merchantId),
      ("description", Payload.text intent.description),
      ("hard_constraints", .array (intent.hardConstraints.map constraintPayload)),
      ("preferences", .array (intent.preferences.map Payload.text))]

/-- `validate_validity_window`. -/
def validateValidityWindow (validFrom validUntil : DateTime) : Except ValueError Unit :=
  if !validFrom.isAware || !validUntil.isAware then
    .error { message := "validity window timestamps must be timezone aware" }
  else if validUntil.instant ≤ validFrom.instant then
    .error { message := "valid_until must be after valid_from" }
  else .ok ()

/-- The fields of a request to create a mandate, before anything has checked them. -/
structure MandateFields where
  merchantId : Uuid
  maxTotalAmountMinor : Int
  currency : String
  validFrom : DateTime
  validUntil : DateTime
  maxQuantity : Option Int
  intent : Option BuyerIntent

/-- `NewMandate.__post_init__`. -/
def MandateFields.validate (fields : MandateFields) : Except ValueError Unit := do
  validateAmountMinor fields.maxTotalAmountMinor
  validateCurrency fields.currency
  validateValidityWindow fields.validFrom fields.validUntil
  if fields.maxQuantity.any fun quantity => quantity ≤ 0 then
    .error { message := "max_quantity must be positive when it is set" }
  else if fields.intent.any fun intent => intent.merchantId ≠ fields.merchantId then
    .error { message := "intent and mandate must name the same merchant" }
  else .ok ()

/-- A request to create a mandate. -/
structure NewMandate where
  fields : MandateFields
  valid : fields.validate = .ok ()

def NewMandate.make (fields : MandateFields) : Except ValueError NewMandate :=
  match h : fields.validate with
  | .ok () => .ok ⟨fields, h⟩
  | .error refusal => .error refusal

theorem NewMandate.make_eq_ok_iff {fields : MandateFields} {request : NewMandate} :
    make fields = .ok request ↔ request.fields = fields := by
  unfold make
  constructor
  · intro made
    split at made
    · cases made
      rfl
    · cases made
  · rintro rfl
    split
    · rfl
    · next refusal refused =>
        rw [request.valid] at refused
        cases refused

/-- The constraints on the fields of `HardConstraintInput`. -/
def isStated : HardConstraint → Bool
  | .maxTotalAmount amountMinor currency => 0 ≤ amountMinor && isCurrencyCode currency
  | .maxQuantity quantity => 0 < quantity
  | .requiredAttribute name _ _ => 1 ≤ name.length && name.length ≤ maxAttributeKeyLength
  | .allowedCategory category => 1 ≤ category.length && category.length ≤ maxStatementLength

structure BuyerIntentInput where
  description : String
  hardConstraints : List HardConstraint := []
  preferences : List String := []

def BuyerIntentInput.isStated (input : BuyerIntentInput) : Bool :=
  1 ≤ input.description.length && input.description.length ≤ maxDescriptionLength &&
    input.hardConstraints.length ≤ maxHardConstraints &&
    input.hardConstraints.all Mandates.isStated && input.preferences.length ≤ maxPreferences

/-- `BuyerIntentInput.to_domain`: every part checks itself, and then the whole. -/
def BuyerIntentInput.toDomain (input : BuyerIntentInput) (merchantId : Uuid) :
    Except ValueError BuyerIntent := do
  forM input.hardConstraints HardConstraint.validate
  forM input.preferences fun statement =>
    requireText statement "preference statement" (some maxStatementLength)
  let intent : BuyerIntent :=
    { merchantId := merchantId
      description := input.description
      hardConstraints := input.hardConstraints
      preferences := input.preferences }
  intent.validate
  .ok intent

/-- The fields of a `CreateMandateRequest`. -/
structure MandateInput where
  maxTotalAmountMinor : Int
  currency : String
  maxQuantity : Option Int := none
  validFrom : DateTime
  validUntil : DateTime
  intent : Option BuyerIntentInput := none

namespace MandateInput

/-- The constraints on the fields. -/
def isStated (input : MandateInput) : Bool :=
  0 ≤ input.maxTotalAmountMinor && isCurrencyCode input.currency &&
    (input.maxQuantity.all fun quantity => 0 < quantity) &&
    input.intent.all BuyerIntentInput.isStated

/-- `CreateMandateRequest.to_command`. -/
def toCommand (input : MandateInput) (merchantId : Uuid) : Except ValueError NewMandate := do
  let intent ← input.intent.mapM fun intent => intent.toDomain merchantId
  NewMandate.make
    { merchantId := merchantId
      maxTotalAmountMinor := input.maxTotalAmountMinor
      currency := input.currency
      validFrom := input.validFrom
      validUntil := input.validUntil
      maxQuantity := input.maxQuantity
      intent := intent }

/-- `is_a_valid_authorization`, with the placeholder for the merchant. -/
def validate (input : MandateInput) : Except ValueError NewMandate := do
  validateValidityWindow input.validFrom input.validUntil
  input.toCommand 0

end MandateInput

/-- A `CreateMandateRequest` that its schema accepts. -/
structure CreateMandateRequest where
  input : MandateInput
  stated : input.isStated = true
  accepted : ∃ command, input.validate = .ok command

/-- The row `MandateRepository.create` writes: always active. -/
def mandateRow (request : NewMandate) (mandateId : Uuid) : SpendingMandate where
  id := mandateId
  merchantId := request.fields.merchantId
  maxTotalAmountMinor := request.fields.maxTotalAmountMinor.toNat
  currency := request.fields.currency
  maxQuantity := request.fields.maxQuantity.map Int.toNat
  validFrom := request.fields.validFrom.instant
  validUntil := request.fields.validUntil.instant
  status := .active
  revokedAt := none

/-- `_created_payload`. -/
def mandateCreatedPayload (mandate : SpendingMandate) (intent : Option BuyerIntent) :
    List (String × Json) :=
  [("max_total_amount_minor", Payload.number mandate.maxTotalAmountMinor),
    ("currency", Payload.text mandate.currency),
    ("max_quantity", mandate.maxQuantity.elim .null Payload.number),
    ("valid_from", Payload.instant mandate.validFrom),
    ("valid_until", Payload.instant mandate.validUntil),
    ("status", Payload.text mandate.status.value)] ++
    intent.toList.map fun intent => ("intent", intent.toPayload)

def mandateCreatedEvent (mandate : SpendingMandate) (credentialId : Option Uuid)
    (intent : Option BuyerIntent) : AuditEvent where
  merchantId := mandate.merchantId
  actorType := .buyer
  credentialId := credentialId
  eventType := .mandateCreated
  resourceType := "spending_mandate"
  resourceId := mandate.id
  payload := mandateCreatedPayload mandate intent

/-- Insert a mandate. -/
def insertMandate (row : SpendingMandate) : Session PUnit := do
  let database ← get
  let mandates ←
    Transaction.require (database.mandates.insert? row)
      (.integrityError "pk_spending_mandate")
  set { database with mandates := mandates }

/-- `MandateService.create_mandate`. -/
def createMandate (request : NewMandate) (capability : Option BenchmarkRunCapability)
    (credentialId : Option Uuid) (mandateId : Uuid) : Session SpendingMandate := do
  requireAllowed request.fields.merchantId capability
  let _ ←
    Transaction.require ((← get).merchants.get? request.fields.merchantId)
      (.notFound "merchant" (toString request.fields.merchantId))
  let mandate := mandateRow request mandateId
  insertMandate mandate
  appendAudit (mandateCreatedEvent mandate credentialId request.fields.intent)
  pure mandate

theorem createMandate_eq_ok_iff {request : NewMandate}
    {capability : Option BenchmarkRunCapability} {credentialId : Option Uuid} {mandateId : Uuid}
    {database final : Database} {row : SpendingMandate} :
    createMandate request capability credentialId mandateId database = .ok (row, final) ↔
      Entered request.fields.merchantId capability database ∧
        row = mandateRow request mandateId ∧
        ∃ mandates, database.mandates.insert? row = some mandates ∧
          final =
            { database with
              mandates := mandates
              auditEvents := database.auditEvents ++
                [mandateCreatedEvent row credentialId request.fields.intent] } := by
  simp only [createMandate, insertMandate, requireAllowed, appendAudit, bind_assoc,
    checking_bind_eq_ok_iff, get_bind, require_bind_eq_ok_iff,
    set_bind, modify_bind, pure_eq_ok_iff, Entered]
  constructor
  · rintro ⟨allowed, merchant, known, mandates, inserted, rfl, rfl⟩
    exact ⟨⟨allowed, merchant, known⟩, rfl, mandates, inserted, rfl⟩
  · rintro ⟨⟨allowed, merchant, known⟩, rfl, mandates, inserted, rfl⟩
    exact ⟨allowed, merchant, known, mandates, inserted, rfl, rfl⟩

/-- Under a fresh identifier nothing that is raised comes from the database. -/
theorem createMandate_ne_integrityError {request : NewMandate}
    {capability : Option BenchmarkRunCapability} {credentialId : Option Uuid} {mandateId : Uuid}
    {database : Database} (fresh : ∀ other ∈ database.mandates, other.id ≠ mandateId)
    (name : String) :
    createMandate request capability credentialId mandateId database ≠
      .error (.integrityError name) := by
  simp only [createMandate, insertMandate, requireAllowed, appendAudit, bind_assoc, ne_eq,
    checking_bind_eq_error_iff, get_bind,
    require_bind_eq_error_iff, set_bind, modify_bind,
    pure_eq_error_iff]
  rintro (refused | ⟨_, ⟨_, ⟨⟩⟩ | ⟨_, _, ⟨taken, _⟩ | ⟨_, _, ⟨⟩⟩⟩⟩)
  · exact mutationRefusal_ne_integrityError refused
  · obtain ⟨other, member, sameKey⟩ := Table.insert?_eq_none_iff.mp taken
    exact fresh other member sameKey

end AgentRank.Mandates
