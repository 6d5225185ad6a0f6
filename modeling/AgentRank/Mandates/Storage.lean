import AgentRank.Mandates.Creation
import AgentRank.Store.Dataclass

/-!
# Which mandates are stored

A mandate request is accepted with amounts and quantities of any size, and its intent with texts
of any content.  It is stored where its numbers are ones that the columns hold and no text of its
intent contains U+0000.
-/

namespace AgentRank.Mandates

open Constraints Relational Store

theorem validateAmountMinor_eq_ok_iff {amountMinor : Int} :
    validateAmountMinor amountMinor = .ok () ↔ 0 ≤ amountMinor := by
  unfold validateAmountMinor
  split
  · next negative => simp [not_le.mpr negative]
  · next notNegative => simp [not_lt.mp notNegative]

theorem validateCurrency_eq_ok_iff {currency : String} :
    validateCurrency currency = .ok () ↔ isCurrencyCode currency = true := by
  unfold validateCurrency
  split
  · next isCode => simp [isCode]
  · next notCode => simp [notCode]

theorem validateValidityWindow_eq_ok_iff {validFrom validUntil : DateTime} :
    validateValidityWindow validFrom validUntil = .ok () ↔
      validFrom.isAware = true ∧ validUntil.isAware = true ∧
        validFrom.instant < validUntil.instant := by
  unfold validateValidityWindow
  cases validFrom.isAware with
  | false => simp
  | true =>
      cases validUntil.isAware with
      | false => simp
      | true => simp

/-- Steps after a check are taken when it passes. -/
theorem check_bind_eq_ok_iff {ε α : Type} {check : Except ε Unit} {rest : Unit → Except ε α}
    {result : α} : (check >>= rest) = .ok result ↔ check = .ok () ∧ rest () = .ok result := by
  rw [except_bind_eq_ok_iff]
  constructor
  · rintro ⟨_, passed, later⟩
    exact ⟨passed, later⟩
  · rintro ⟨passed, later⟩
    exact ⟨(), passed, later⟩

theorem validate_eq_ok_iff {fields : MandateFields} :
    fields.validate = .ok () ↔
      0 ≤ fields.maxTotalAmountMinor ∧ isCurrencyCode fields.currency = true ∧
        validateValidityWindow fields.validFrom fields.validUntil = .ok () ∧
        (∀ quantity ∈ fields.maxQuantity, 0 < quantity) ∧
        ∀ intent ∈ fields.intent, intent.merchantId = fields.merchantId := by
  have quantities : (fields.maxQuantity.any fun quantity => quantity ≤ 0) = true ↔
      ¬∀ quantity ∈ fields.maxQuantity, 0 < quantity := by
    cases fields.maxQuantity with
    | none => simp
    | some quantity => simp
  have merchants : (fields.intent.any fun intent => intent.merchantId ≠ fields.merchantId) = true ↔
      ¬∀ intent ∈ fields.intent, intent.merchantId = fields.merchantId := by
    cases fields.intent with
    | none => simp
    | some intent => simp
  simp only [MandateFields.validate, check_bind_eq_ok_iff, validateAmountMinor_eq_ok_iff,
    validateCurrency_eq_ok_iff]
  apply and_congr_right
  intro _
  apply and_congr_right
  intro _
  apply and_congr_right
  intro _
  by_cases positive : ∀ quantity ∈ fields.maxQuantity, 0 < quantity
  · rw [if_neg (mt quantities.mp (not_not.mpr positive))]
    by_cases same : ∀ intent ∈ fields.intent, intent.merchantId = fields.merchantId
    · rw [if_neg (mt merchants.mp (not_not.mpr same))]
      exact iff_of_true rfl ⟨positive, same⟩
    · rw [if_pos (merchants.mpr same)]
      exact iff_of_false nofun fun both => same both.2
  · rw [if_pos (quantities.mpr positive)]
    exact iff_of_false nofun fun both => positive both.1

/-! ## The command of a request -/

/-- The intent that a request states, for a merchant. -/
def BuyerIntentInput.intent (input : BuyerIntentInput) (merchantId : Uuid) : BuyerIntent where
  merchantId := merchantId
  description := input.description
  hardConstraints := input.hardConstraints
  preferences := input.preferences

variable {merchantId : Uuid}

/-- Every part of an intent passes its check, and no check reads the merchant. -/
theorem toDomain_eq_ok_iff {input : BuyerIntentInput} {intent : BuyerIntent} :
    input.toDomain merchantId = .ok intent ↔
      intent = input.intent merchantId ∧
        (∀ constraint ∈ input.hardConstraints, constraint.validate = .ok ()) ∧
        (∀ statement ∈ input.preferences,
          requireText statement "preference statement" (some maxStatementLength) = .ok ()) ∧
        (input.intent 0).validate = .ok () := by
  simp only [BuyerIntentInput.toDomain, check_bind_eq_ok_iff]
  rw [Transaction.forM_eq_ok_iff, Transaction.forM_eq_ok_iff]
  change _ ∧ _ ∧ (input.intent 0).validate = .ok () ∧ Except.ok (input.intent merchantId) = _ ↔ _
  rw [Except.ok.injEq]
  constructor
  · rintro ⟨constraints, preferences, whole, rfl⟩
    exact ⟨rfl, constraints, preferences, whole⟩
  · rintro ⟨rfl, constraints, preferences, whole⟩
    exact ⟨constraints, preferences, whole, rfl⟩

/-- The fields of the command, for a merchant. -/
def MandateInput.fields (input : MandateInput) (merchantId : Uuid) : MandateFields where
  merchantId := merchantId
  maxTotalAmountMinor := input.maxTotalAmountMinor
  currency := input.currency
  validFrom := input.validFrom
  validUntil := input.validUntil
  maxQuantity := input.maxQuantity
  intent := input.intent.map fun intent => intent.intent merchantId

theorem validate_fields {input : MandateInput} {other : Uuid}
    (valid : (input.fields merchantId).validate = .ok ()) :
    (input.fields other).validate = .ok () := by
  rw [validate_eq_ok_iff] at valid ⊢
  obtain ⟨amount, currency, window, quantities, _⟩ := valid
  refine ⟨amount, currency, window, quantities, ?_⟩
  intro intent member
  obtain ⟨stated, _, rfl⟩ := Option.mem_map.mp member
  rfl

variable {command : NewMandate}

/-- The command of a request carries its fields, and every part of its intent passed. -/
theorem toCommand_eq_ok_iff {input : MandateInput} :
    input.toCommand merchantId = .ok command ↔
      command.fields = input.fields merchantId ∧
        ∀ intent ∈ input.intent, ∃ domain, intent.toDomain merchantId = .ok domain := by
  rw [MandateInput.toCommand, except_bind_eq_ok_iff]
  simp only [NewMandate.make_eq_ok_iff]
  have isMapped : ∀ intent : Option BuyerIntent,
      (input.intent.mapM fun intent => intent.toDomain merchantId) = .ok intent ↔
        intent = input.intent.map (fun intent => intent.intent merchantId) ∧
          ∀ intent ∈ input.intent, ∃ domain, intent.toDomain merchantId = .ok domain := by
    intro intent
    cases input.intent with
    | none =>
        change Except.ok none = _ ↔ _
        simp [eq_comm]
    | some stated =>
        change (stated.toDomain merchantId >>= fun domain => .ok (some domain)) = .ok intent ↔ _
        rw [except_bind_eq_ok_iff]
        simp only [Option.mem_some_iff, forall_eq', Option.map_some]
        constructor
        · rintro ⟨domain, isDomain, same⟩
          cases same
          rw [(toDomain_eq_ok_iff.mp isDomain).1]
          exact ⟨rfl, _, isDomain⟩
        · rintro ⟨rfl, domain, isDomain⟩
          refine ⟨domain, isDomain, ?_⟩
          rw [(toDomain_eq_ok_iff.mp isDomain).1]
  constructor
  · rintro ⟨intent, mapped, fields⟩
    obtain ⟨rfl, passes⟩ := (isMapped intent).mp mapped
    exact ⟨fields, passes⟩
  · rintro ⟨fields, passes⟩
    exact ⟨_, (isMapped _).mpr ⟨rfl, passes⟩, fields⟩

/-- What a schema accepts with the placeholder is a command for every merchant. -/
theorem exists_command (request : CreateMandateRequest) (merchantId : Uuid) :
    ∃ command, request.input.toCommand merchantId = .ok command := by
  obtain ⟨accepted, isAccepted⟩ := request.accepted
  rw [MandateInput.validate, check_bind_eq_ok_iff, toCommand_eq_ok_iff] at isAccepted
  obtain ⟨_, fields, passes⟩ := isAccepted
  have valid : (request.input.fields merchantId).validate = .ok () := by
    apply validate_fields
    rw [← fields]
    exact accepted.valid
  refine ⟨⟨_, valid⟩, toCommand_eq_ok_iff.mpr ⟨rfl, ?_⟩⟩
  intro intent member
  obtain ⟨domain, isDomain⟩ := passes intent member
  exact ⟨_, toDomain_eq_ok_iff.mpr ⟨rfl, (toDomain_eq_ok_iff.mp isDomain).2⟩⟩

/-! ## The texts of a request -/

def scalarsOf : ConstraintValue → List ScalarValue
  | .single value => [value]
  | .tuple members => members

def textOf : ScalarValue → Option String
  | .string text => some text
  | _ => none

def valueTexts (value : ConstraintValue) : List String :=
  (scalarsOf value).filterMap textOf

def constraintTexts : HardConstraint → List String
  | .requiredAttribute name _ value => name :: valueTexts value
  | .allowedCategory category => [category]
  | .maxTotalAmount _ _ | .maxQuantity _ => []

def BuyerIntentInput.texts (input : BuyerIntentInput) : List String :=
  input.description :: (input.hardConstraints.flatMap constraintTexts ++ input.preferences)

/-- Every text is one that a column holds. -/
def HeldTexts (texts : List String) : Prop :=
  ∀ text ∈ texts, holdsText text = true

theorem heldTexts_cons_iff {text : String} {texts : List String} :
    HeldTexts (text :: texts) ↔ holdsText text = true ∧ HeldTexts texts :=
  List.forall_mem_cons

theorem heldTexts_append_iff {first second : List String} :
    HeldTexts (first ++ second) ↔ HeldTexts first ∧ HeldTexts second :=
  List.forall_mem_append

theorem heldTexts_flatMap_iff {α : Type} {items : List α} {textsOf : α → List String} :
    HeldTexts (items.flatMap textsOf) ↔ ∀ item ∈ items, HeldTexts (textsOf item) := by
  simp only [HeldTexts, List.mem_flatMap]
  constructor
  · intro all item member text isText
    exact all text ⟨item, member, isText⟩
  · rintro all text ⟨item, member, isText⟩
    exact all item member text isText

theorem holdsText_currency {currency : String} (isCode : isCurrencyCode currency = true) :
    holdsText currency = true := by
  rw [isCurrencyCode, Bool.and_eq_true, List.all_eq_true] at isCode
  rw [holdsText_iff]
  rintro char member rfl
  exact absurd (isCode.2 _ member) (by decide)

/-- A validated scalar is held unless it is a text with U+0000. -/
theorem holdsScalar_iff {value : ScalarValue} {kind : ConstraintValueType}
    (validated : validatedScalar value = .ok kind) :
    holdsScalar value = true ↔ ∀ text ∈ textOf value, holdsText text = true := by
  cases value with
  | string text => simp [holdsScalar, textOf]
  | number number =>
      have finite : number.isFinite = true := by
        rw [validatedScalar] at validated
        split at validated
        · next isFinite => exact isFinite
        · cases validated
      simp [holdsScalar, textOf, finite]
  | boolean flag => simp [holdsScalar, textOf]

variable {value : ConstraintValue}

/-- Every scalar of a validated value was validated. -/
theorem validated_of_mem {operator : ConstraintOperator}
    (validated : validateConstraintValue operator value = .ok ()) :
    ∀ scalar ∈ scalarsOf value, ∃ kind, validatedScalar scalar = .ok kind := by
  cases value with
  | single scalar =>
      intro other member
      rw [List.mem_singleton.mp member]
      cases operator with
      | isIn => cases validated
      | eq | ne | gte | lte =>
          rw [validateConstraintValue, except_bind_eq_ok_iff] at validated
          · obtain ⟨kind, isKind, _⟩ := validated
            exact ⟨kind, isKind⟩
          · nofun
  | tuple members =>
      cases operator with
      | eq | ne | gte | lte => cases validated
      | isIn =>
          rw [validateConstraintValue] at validated
          split at validated
          · cases validated
          · split at validated
            · cases validated
            · obtain ⟨kinds, areKinds, _⟩ := except_bind_eq_ok_iff.mp validated
              exact exists_mapM_eq_ok_iff.mp ⟨kinds, areKinds⟩

theorem holdsJson_toStoredValue :
    holdsJson value.toStoredValue = true ↔
      ∀ scalar ∈ scalarsOf value, holdsScalar scalar = true := by
  cases value with
  | single scalar =>
      rw [scalarsOf, List.forall_mem_singleton]
      rfl
  | tuple members =>
      change holdsItems (members.map Json.scalar) = true ↔ _
      rw [holdsItems_iff, List.forall_mem_map]
      rfl

/-- A validated value is held as its texts are. -/
theorem holdsValue_iff {operator : ConstraintOperator}
    (validated : validateConstraintValue operator value = .ok ()) :
    holdsJson value.toStoredValue = true ↔ HeldTexts (valueTexts value) := by
  rw [holdsJson_toStoredValue]
  constructor
  · intro held text member
    obtain ⟨scalar, scalarMem, isText⟩ := List.mem_filterMap.mp member
    obtain ⟨kind, isKind⟩ := validated_of_mem validated scalar scalarMem
    exact (holdsScalar_iff isKind).mp (held scalar scalarMem) text isText
  · intro held scalar member
    obtain ⟨kind, isKind⟩ := validated_of_mem validated scalar member
    rw [holdsScalar_iff isKind]
    intro text isText
    exact held text (List.mem_filterMap.mpr ⟨scalar, member, isText⟩)

theorem holdsText_operator (operator : ConstraintOperator) : holdsText operator.value = true := by
  cases operator <;> decide

theorem holdsText_kind (kind : ConstraintKind) : holdsText kind.value = true := by
  cases kind <;> decide

/-- A constraint that passed its own check is held as its texts are. -/
theorem holdsJson_constraintPayload {constraint : HardConstraint}
    (valid : constraint.validate = .ok ()) :
    holdsJson (constraintPayload constraint) = true ↔ HeldTexts (constraintTexts constraint) := by
  cases constraint with
  | maxTotalAmount amountMinor currency =>
      rw [HardConstraint.validate, check_bind_eq_ok_iff, validateCurrency_eq_ok_iff] at valid
      have held := holdsText_currency valid.2
      simp +decide [constraintPayload, holdsJson, holdsFields, holdsText_kind, held, wholeNumber,
        holdsScalar, Number.isFinite, constraintTexts, HeldTexts]
  | maxQuantity quantity =>
      simp +decide [constraintPayload, holdsJson, holdsFields, holdsText_kind, wholeNumber,
        holdsScalar, Number.isFinite, constraintTexts, HeldTexts]
  | requiredAttribute name operator value =>
      rw [HardConstraint.validate, check_bind_eq_ok_iff] at valid
      rw [constraintTexts, heldTexts_cons_iff, ← holdsValue_iff valid.2]
      simp +decide [constraintPayload, holdsJson, holdsFields, holdsText_kind, holdsText_operator]
  | allowedCategory category =>
      rw [constraintTexts, HeldTexts, List.forall_mem_singleton]
      simp +decide [constraintPayload, holdsJson, holdsFields, holdsText_kind]

theorem holdsJson_array {items : List Json} :
    holdsJson (.array items) = true ↔ ∀ item ∈ items, holdsJson item = true :=
  holdsItems_iff

/-- An intent is held as its texts are. -/
theorem holdsJson_intent {input : BuyerIntentInput} {intent : BuyerIntent}
    (isDomain : input.toDomain merchantId = .ok intent) :
    holdsJson intent.toPayload = true ↔ HeldTexts input.texts := by
  obtain ⟨rfl, constraints, _, _⟩ := toDomain_eq_ok_iff.mp isDomain
  have heldConstraints : holdsJson (.array (input.hardConstraints.map constraintPayload)) = true ↔
      ∀ constraint ∈ input.hardConstraints, HeldTexts (constraintTexts constraint) := by
    rw [holdsJson_array, List.forall_mem_map]
    apply forall₂_congr
    intro constraint member
    exact holdsJson_constraintPayload (constraints constraint member)
  have heldPreferences : holdsJson (.array (input.preferences.map Payload.text)) = true ↔
      HeldTexts input.preferences := by
    rw [holdsJson_array, List.forall_mem_map]
    rfl
  rw [BuyerIntentInput.texts, heldTexts_cons_iff, heldTexts_append_iff, heldTexts_flatMap_iff,
    ← heldConstraints, ← heldPreferences]
  simp +decide [BuyerIntent.toPayload, BuyerIntentInput.intent, holdsJson, holdsFields]

/-- What a mandate request may not exceed, to be stored. -/
structure MandateInput.Storable (input : MandateInput) : Prop where
  amount : input.maxTotalAmountMinor ≤ maxBigInteger
  quantity : ∀ quantity ∈ input.maxQuantity, quantity ≤ (maxInteger : Int)
  texts : ∀ intent ∈ input.intent, HeldTexts intent.texts

section Row

variable {input : MandateInput} {merchantId mandateId : Uuid} {command : NewMandate}

theorem fits_mandateRow (isCommand : input.toCommand merchantId = .ok command) :
    (mandateRow command mandateId).fits = true ↔
      input.maxTotalAmountMinor ≤ maxBigInteger ∧
        ∀ quantity ∈ input.maxQuantity, quantity ≤ (maxInteger : Int) := by
  have fields := (toCommand_eq_ok_iff.mp isCommand).1
  obtain ⟨amount, currency, window, quantities, _⟩ := validate_eq_ok_iff.mp command.valid
  rw [validateValidityWindow_eq_ok_iff] at window
  rw [fields] at currency window quantities
  have heldCurrency : holdsCurrency input.currency = true := currency
  have heldQuantity : ((input.maxQuantity.map Int.toNat).all fun quantity =>
      0 < quantity && quantity ≤ maxInteger) = true ↔
        ∀ quantity ∈ input.maxQuantity, quantity ≤ (maxInteger : Int) := by
    cases stated : input.maxQuantity with
    | none => simp
    | some quantity =>
        have positive : 0 < quantity := quantities quantity stated
        simp [positive, Int.toNat_le]
  have ordered : input.validFrom.instant < input.validUntil.instant := window.2.2
  simp [SpendingMandate.fits, mandateRow, fields, MandateInput.fields, heldCurrency, heldQuantity,
    DateTime.holdsTimestamp_instant, ordered, Int.toNat_le]

theorem fits_mandateEvent (isCommand : input.toCommand merchantId = .ok command)
    (credentialId : Option Uuid) :
    (mandateCreatedEvent (mandateRow command mandateId) credentialId
        command.fields.intent).fits = true ↔
      ∀ intent ∈ input.intent, HeldTexts intent.texts := by
  obtain ⟨fields, passes⟩ := toCommand_eq_ok_iff.mp isCommand
  obtain ⟨_, currency, _⟩ := validate_eq_ok_iff.mp command.valid
  have heldCurrency : holdsText command.fields.currency = true := holdsText_currency currency
  have heldIntent : holdsFields (command.fields.intent.toList.map fun intent =>
      ("intent", intent.toPayload)) = true ↔ ∀ intent ∈ input.intent, HeldTexts intent.texts := by
    rw [fields]
    cases stated : input.intent with
    | none => simp [MandateInput.fields, stated, holdsFields]
    | some intent =>
        obtain ⟨domain, isDomain⟩ := passes intent stated
        have held := holdsJson_intent isDomain
        rw [(toDomain_eq_ok_iff.mp isDomain).1] at held
        simp +decide [MandateInput.fields, stated, holdsFields, held]
  have heldQuantity : holdsJson
      (command.fields.maxQuantity.elim .null (Payload.number ∘ Int.toNat)) = true := by
    cases command.fields.maxQuantity <;> rfl
  rw [AuditEvent.fits, mandateCreatedEvent, Bool.and_eq_true]
  simp only [mandateCreatedPayload]
  rw [holdsFields_append, heldIntent]
  simp +decide [holdsFields, mandateRow, heldCurrency, heldQuantity, MandateStatus.value]

end Row

/-! ## The call -/

section Call

variable {input : MandateInput} {merchantId mandateId : Uuid}
  {capability : Option BenchmarkRunCapability} {credentialId : Option Uuid}
  {database final : Database} {row : SpendingMandate}

/-- The command of a request, performed for the merchant of the credential. -/
def grant (input : MandateInput) (merchantId : Uuid)
    (capability : Option BenchmarkRunCapability) (credentialId : Option Uuid) (mandateId : Uuid) :
    Session SpendingMandate := do
  let command ← enforce (input.toCommand merchantId)
  createMandate command capability credentialId mandateId

/-- Under a key that no row carries, a row is inserted. -/
theorem exists_insert? {ρ κ : Type} [Keyed ρ κ] [DecidableEq κ] {table : Table ρ} {row : ρ}
    (fresh : ∀ other ∈ table, Keyed.key other ≠ Keyed.key row) :
    ∃ result, table.insert? row = some result := by
  rw [← Option.ne_none_iff_exists']
  intro taken
  obtain ⟨other, member, sameKey⟩ := Table.insert?_eq_none_iff.mp taken
  exact fresh other member sameKey

/-- What a stored mandate carries: the requested values, in a row of its own, and one event. -/
structure Granted (input : MandateInput) (merchantId mandateId : Uuid) (before : Database)
    (row : SpendingMandate) (after : Database) : Prop where
  id : row.id = mandateId
  merchant : row.merchantId = merchantId
  amount : (row.maxTotalAmountMinor : Int) = input.maxTotalAmountMinor
  currency : row.currency = input.currency
  quantity : row.maxQuantity.map Int.ofNat = input.maxQuantity
  window : row.validFrom = input.validFrom.instant ∧ row.validUntil = input.validUntil.instant
  status : row.status = .active
  written : ∃ mandates event, before.mandates.insert? row = some mandates ∧
    event.eventType = .mandateCreated ∧ event.resourceId = row.id ∧
    after =
      { before with mandates := mandates, auditEvents := before.auditEvents ++ [event] }

theorem grant_eq {command : NewMandate} (isCommand : input.toCommand merchantId = .ok command) :
    grant input merchantId capability credentialId mandateId =
      createMandate command capability credentialId mandateId := by
  rw [grant, isCommand, enforce_ok_bind]

/-- A mandate that is created carries what was requested. -/
theorem granted_of_created (isCommand : input.toCommand merchantId = .ok command)
    (created : createMandate command capability credentialId mandateId database =
      .ok (row, final)) :
    Granted input merchantId mandateId database row final := by
  have fields := (toCommand_eq_ok_iff.mp isCommand).1
  obtain ⟨amount, _, _, quantities, _⟩ := validate_eq_ok_iff.mp command.valid
  rw [fields] at amount quantities
  obtain ⟨_, rfl, mandates, inserted, rfl⟩ := createMandate_eq_ok_iff.mp created
  have quantity : (input.maxQuantity.map Int.toNat).map Int.ofNat = input.maxQuantity := by
    cases stated : input.maxQuantity with
    | none => rfl
    | some quantity =>
        have positive : 0 < quantity := quantities quantity stated
        simp [Int.toNat_of_nonneg positive.le]
  constructor
  · rfl
  · simp [mandateRow, fields, MandateInput.fields]
  · simpa [mandateRow, fields, MandateInput.fields] using amount
  · simp [mandateRow, fields, MandateInput.fields]
  · simpa [mandateRow, fields, MandateInput.fields] using quantity
  · simp [mandateRow, fields, MandateInput.fields]
  · rfl
  · exact ⟨mandates, _, inserted, rfl, rfl, rfl⟩

/-- An accepted request settles exactly if, where it gets as far as writing, its numbers and its
texts are ones that the columns hold. -/
theorem grant_settles_iff (request : CreateMandateRequest) (fits : database.fits = true)
    (fresh : ∀ other ∈ database.mandates, other.id ≠ mandateId) :
    (serve none (grant request.input merchantId capability credentialId mandateId)
        database).Settles (Granted request.input merchantId mandateId database) ↔
      (Entered merchantId capability database → request.input.Storable) := by
  obtain ⟨command, isCommand⟩ := exists_command request merchantId
  have fields := (toCommand_eq_ok_iff.mp isCommand).1
  have merchant : command.fields.merchantId = merchantId := by rw [fields]; rfl
  rw [grant_eq isCommand, settles_serve_iff]
  · constructor
    · rintro ⟨_, _, stored⟩ entered
      rw [← merchant] at entered
      obtain ⟨mandates, inserted⟩ :
          ∃ mandates, database.mandates.insert? (mandateRow command mandateId) = some mandates :=
        exists_insert? fresh
      have final := stored _ _
        (createMandate_eq_ok_iff.mpr ⟨entered, rfl, mandates, inserted, rfl⟩)
      rw [fits_mandates fits (Table.insert?_eq_some_iff.mp inserted).2,
        fits_mandateRow isCommand, fits_mandateEvent isCommand] at final
      exact ⟨final.1.1, final.1.2, final.2⟩
    · intro storable
      refine ⟨nofun, createMandate_ne_integrityError fresh, ?_⟩
      intro row final granted
      obtain ⟨entered, rfl, mandates, inserted, rfl⟩ :=
        createMandate_eq_ok_iff.mp granted
      rw [merchant] at entered
      obtain ⟨amount, quantity, texts⟩ := storable entered
      rw [fits_mandates fits (Table.insert?_eq_some_iff.mp inserted).2,
        fits_mandateRow isCommand, fits_mandateEvent isCommand]
      exact ⟨⟨amount, quantity⟩, texts⟩
  · intro row final created
    exact granted_of_created isCommand created

end Call

end AgentRank.Mandates
