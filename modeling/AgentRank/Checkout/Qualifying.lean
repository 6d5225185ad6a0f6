import AgentRank.Checkout.IntentSoundness
import AgentRank.Mandates.Storage

/-!
# Which constraint sets are stored

This module models the request model of `constraints/schemas.py`.  A request that its schema
accepts is stored where its rules have no text with U+0000, and the mandate that it qualifies can
be loaded.
-/

namespace AgentRank.Checkout

open Constraints Mandates Relational Store Text Transaction

variable [CaseFolding]

/-- The fields of a `CreateIntentConstraintsRequest`. -/
structure ConstraintsInput where
  constraints : List HardConstraint

namespace ConstraintsInput

/-- The constraints on the fields. -/
def isStated (input : ConstraintsInput) : Bool :=
  1 ≤ input.constraints.length && input.constraints.length ≤ maxHardConstraints &&
    input.constraints.all Mandates.isStated

/-- `CreateIntentConstraintsRequest.to_command`. -/
def toCommand (input : ConstraintsInput) (mandateId merchantId : Uuid) :
    Except ValueError NewIntentConstraints := do
  forM input.constraints HardConstraint.validate
  NewIntentConstraints.make merchantId mandateId input.constraints

end ConstraintsInput

/-- A `CreateIntentConstraintsRequest` that its schema accepts. -/
structure CreateIntentConstraintsRequest where
  input : ConstraintsInput
  stated : input.isStated = true
  accepted : ∃ command, input.toCommand 0 0 = .ok command

theorem make_eq_ok_iff {merchantId mandateId : Uuid} {constraints : List HardConstraint}
    {command : NewIntentConstraints} :
    NewIntentConstraints.make merchantId mandateId constraints = .ok command ↔
      command.merchantId = merchantId ∧ command.mandateId = mandateId ∧
        command.hardConstraints = constraints := by
  unfold NewIntentConstraints.make
  split
  · next specs accepted =>
      rw [Except.ok.injEq]
      constructor
      · rintro rfl
        exact ⟨rfl, rfl, rfl⟩
      · obtain ⟨_, _, _, found, foundAccepted⟩ := command
        rintro ⟨rfl, rfl, rfl⟩
        have same : specs = found := Except.ok.inj (accepted.symm.trans foundAccepted)
        cases same
        rfl
  · next refusal refused =>
      refine iff_of_false nofun ?_
      rintro ⟨_, _, same⟩
      have accepted := command.accepted
      rw [same, refused] at accepted
      cases accepted

/-- What a schema accepts with the placeholders is a command for every merchant. -/
theorem exists_constraintsCommand (request : CreateIntentConstraintsRequest)
    (mandateId merchantId : Uuid) :
    ∃ command, request.input.toCommand mandateId merchantId = .ok command := by
  obtain ⟨accepted, isAccepted⟩ := request.accepted
  rw [ConstraintsInput.toCommand, check_bind_eq_ok_iff, make_eq_ok_iff] at isAccepted
  obtain ⟨passes, _, _, constraints⟩ := isAccepted
  have valid := accepted.accepted
  rw [constraints] at valid
  refine ⟨⟨merchantId, mandateId, request.input.constraints, accepted.specs, valid⟩, ?_⟩
  rw [ConstraintsInput.toCommand, check_bind_eq_ok_iff, make_eq_ok_iff]
  exact ⟨passes, rfl, rfl, rfl⟩

/-! ## The rows of a request -/

def specTexts (spec : IntentConstraintSpec) : List String :=
  spec.fields.attributeKey.toList ++ valueTexts spec.fields.value

omit [CaseFolding] in
/-- What building a rule has checked. -/
theorem spec_checked (spec : IntentConstraintSpec) :
    validateConstraintValue spec.fields.operator spec.fields.value = .ok () ∧
      kindShape spec.fields = true ∧
      ∀ key ∈ spec.fields.attributeKey, key.length ≤ maxAttributeKeyLength := by
  have valid := spec.valid
  rw [ConstraintFields.validate, check_bind_eq_ok_iff] at valid
  obtain ⟨value, shape⟩ := valid
  refine ⟨value, ?_⟩
  cases kind : spec.fields.kind with
  | allowedCategory =>
      simp only [kind] at shape
      split at shape
      · cases shape
      · next noKey =>
          split at shape
          · cases shape
          · next isIn =>
              have absent : spec.fields.attributeKey = none := by simpa using noKey
              simp [kindShape, kind, absent, not_not.mp isIn]
  | requiredAttribute =>
      simp only [kind] at shape
      cases keyEq : spec.fields.attributeKey with
      | none =>
          rw [keyEq] at shape
          cases shape
      | some key =>
          simp only [keyEq] at shape
          split at shape
          · cases shape
          · next visible =>
              split at shape
              · cases shape
              · next short =>
                  have visibleChar : ∃ char ∈ key.toList, isSpace char = false := by
                    by_contra none
                    apply visible
                    rw [isBlank_iff]
                    intro char member
                    by_contra notSpace
                    exact none ⟨char, member, by simpa using notSpace⟩
                  obtain ⟨char, member, notSpace⟩ := visibleChar
                  have notBlank : char ≠ ' ' := by
                    rintro rfl
                    exact absurd notSpace (by decide)
                  simp only [kindShape, kind, keyEq, Option.any_some, List.any_eq_true, bne_iff_ne,
                    Option.mem_some_iff, forall_eq']
                  exact ⟨⟨char, member, notBlank⟩, not_lt.mp short⟩

omit [CaseFolding] in
/-- An operator that orders its operands compares numbers. -/
theorem isNumber_of_validated {operator : ConstraintOperator} {scalar : ScalarValue}
    (ordering : operator.isOrdering = true)
    (validated : validateConstraintValue operator (.single scalar) = .ok ()) :
    scalar.valueType = .number := by
  rw [validateConstraintValue, except_bind_eq_ok_iff] at validated
  · obtain ⟨kind, isKind, isOrdered⟩ := validated
    rw [validatedScalar_eq_ok isKind] at isOrdered
    split at isOrdered
    · cases isOrdered
    · next fine => simpa [ordering] using fine
  · rintro rfl
    cases ordering

omit [CaseFolding] in
theorem valueShape_of_validated {fields : ConstraintFields}
    (validated : validateConstraintValue fields.operator fields.value = .ok ()) :
    valueShape fields = true := by
  unfold valueShape
  cases operatorEq : fields.operator with
  | isIn =>
      cases valueEq : fields.value with
      | single scalar =>
          rw [operatorEq, valueEq] at validated
          cases validated
      | tuple members =>
          rw [operatorEq, valueEq, validateConstraintValue] at validated
          split at validated
          · cases validated
          · next notEmpty => simpa using notEmpty
  | eq | ne =>
      cases valueEq : fields.value with
      | single scalar => rfl
      | tuple members =>
          rw [operatorEq, valueEq] at validated
          cases validated
  | gte | lte =>
      cases valueEq : fields.value with
      | single scalar =>
          rw [operatorEq, valueEq] at validated
          exact decide_eq_true (isNumber_of_validated rfl validated)
      | tuple members =>
          rw [operatorEq, valueEq] at validated
          cases validated

omit [CaseFolding] in
/-- A rule is stored as its texts are. -/
theorem fits_constraint_iff (spec : IntentConstraintSpec) (id : Uuid) :
    ({ id := id, fields := spec.fields } : IntentConstraint).fits = true ↔
      HeldTexts (specTexts spec) := by
  obtain ⟨validated, shape, short⟩ := spec_checked spec
  have heldKey : (spec.fields.attributeKey.all (holdsString 200)) = true ↔
      HeldTexts spec.fields.attributeKey.toList := by
    cases keyEq : spec.fields.attributeKey with
    | none => simp [HeldTexts]
    | some key =>
        have isShort : key.length ≤ 200 := short key keyEq
        simp [holdsString, isShort, HeldTexts]
  rw [specTexts, heldTexts_append_iff, ← heldKey, ← holdsValue_iff validated]
  simp [IntentConstraint.fits, shape, valueShape_of_validated validated]

/-- The rules of an accepted request are about different things. -/
theorem targets_nodup (request : NewIntentConstraints) :
    (request.specs.map fun spec =>
      (spec.fields.kind, spec.fields.attributeKey, spec.fields.operator)).Nodup := by
  have normalized : ((request.specs.map fun spec =>
      (spec.fields.kind, spec.fields.attributeKey, spec.fields.operator)).map fun target =>
        (target.1, target.2.1.map normalizeText, target.2.2)).Nodup := by
    have accepted := request.accepted
    rw [List.map_map]
    unfold validateHardConstraints at accepted
    split at accepted
    · cases accepted
    · split at accepted
      · cases accepted
      · obtain ⟨specs, _, checked⟩ := except_bind_eq_ok_iff.mp accepted
        split at checked
        · cases checked
        · simp only at checked
          split at checked
          · cases checked
          · next distinct =>
              cases checked
              rw [not_not] at distinct
              exact List.dedup_eq_self.mp ((List.dedup_sublist _).eq_of_length distinct)
  exact normalized.of_map _

theorem map_constraintSetRow {α : Type} (request : NewIntentConstraints) (setId : Uuid)
    (constraintId : Nat → Uuid) (read : ConstraintFields → α) :
    (constraintSetRow request setId constraintId).constraints.map
        (fun constraint => read constraint.fields) =
      request.specs.map fun spec => read spec.fields :=
  map_mapIdx _ request.specs _ _ fun _ _ => rfl

/-- A set of rules is stored as the texts of its rules are. -/
theorem fits_constraintSetRow (request : NewIntentConstraints) (setId : Uuid)
    (constraintId : Nat → Uuid) :
    (constraintSetRow request setId constraintId).fits = true ↔
      ∀ spec ∈ request.specs, HeldTexts (specTexts spec) := by
  have distinct : ((constraintSetRow request setId constraintId).constraints.map
      IntentConstraint.target).Nodup := by
    have nodup := targets_nodup request
    rw [← map_constraintSetRow request setId constraintId fun fields =>
      (fields.kind, fields.attributeKey, fields.operator)] at nodup
    exact nodup
  have rows : (∀ constraint ∈ (constraintSetRow request setId constraintId).constraints,
      constraint.fits = true) ↔ ∀ spec ∈ request.specs, HeldTexts (specTexts spec) := by
    simp only [constraintSetRow, List.mem_mapIdx]
    constructor
    · intro fit spec member
      obtain ⟨index, below, rfl⟩ := List.getElem_of_mem member
      exact (fits_constraint_iff _ _).mp (fit _ ⟨index, below, rfl⟩)
    · rintro held _ ⟨index, below, rfl⟩
      exact (fits_constraint_iff _ _).mpr (held _ (List.getElem_mem below))
  rw [IntentConstraintSet.fits, Bool.and_eq_true, List.all_eq_true, rows, decide_eq_true_iff]
  exact and_iff_left distinct

theorem fits_constraintsEvent {request : NewIntentConstraints} :
    holdsFields (constraintsCreatedPayload request) = true ↔
      ∀ spec ∈ request.specs, HeldTexts (specTexts spec) := by
  have summary : ∀ spec : IntentConstraintSpec,
      holdsJson (constraintSummary spec) = true ↔ HeldTexts (specTexts spec) := by
    intro spec
    have held := holdsValue_iff (spec_checked spec).1
    have heldKey : holdsJson (Payload.optionalText spec.fields.attributeKey) = true ↔
        HeldTexts spec.fields.attributeKey.toList := by
      cases spec.fields.attributeKey with
      | none => simp [HeldTexts, Payload.optionalText, holdsJson]
      | some key => simp [HeldTexts, Payload.optionalText]
    rw [specTexts, heldTexts_append_iff, ← held, ← heldKey]
    cases kind : spec.fields.kind with
    | allowedCategory | requiredAttribute =>
        simp +decide [constraintSummary, holdsJson, holdsFields, kind, holdsText_operator]
  have summaries : holdsJson (.array (request.specs.map constraintSummary)) = true ↔
      ∀ spec ∈ request.specs, HeldTexts (specTexts spec) := by
    rw [holdsJson_array, List.forall_mem_map]
    exact forall₂_congr fun spec _ => summary spec
  rw [← summaries]
  simp +decide [constraintsCreatedPayload, holdsFields]

/-! ## The call -/

def constraintsCreatedEvent (row : IntentConstraintSet) (credentialId : Option Uuid)
    (request : NewIntentConstraints) : AuditEvent where
  merchantId := row.merchantId
  actorType := .buyer
  credentialId := credentialId
  eventType := .intentConstraintsCreated
  resourceType := "intent_constraint_set"
  resourceId := row.id
  payload := constraintsCreatedPayload request

/-- When a mandate may be qualified: it is active, it is not qualified yet, and it permits no more
than was stated. -/
structure Qualifiable (constraints : List HardConstraint) (mandateId : Uuid)
    (mandate : SpendingMandate) (database : Database) : Prop where
  active : mandate.status = .active
  unqualified : findConstraintSet database mandate.id mandate.merchantId = none
  single : ∀ other ∈ database.constraintSets, other.mandateId ≠ mandateId
  permits : ∀ constraint ∈ constraints.filter HardConstraint.isFinancial,
    checkAgainstMandate mandate constraint = .ok ()

section Call

variable {request : NewIntentConstraints} {capability : Option BenchmarkRunCapability}
  {credentialId : Option Uuid} {setId : Uuid} {constraintId : Nat → Uuid}
  {database final : Database} {row : IntentConstraintSet}

omit [CaseFolding] in
theorem any_mandateId_iff {mandateId : Uuid} :
    ¬(database.constraintSets.rows.any fun other => other.mandateId == mandateId) = true ↔
      ∀ other ∈ database.constraintSets, other.mandateId ≠ mandateId := by
  simp [Table.mem_def]

theorem createConstraints_eq_ok_iff :
    createConstraints request capability credentialId setId constraintId database =
        .ok (row, final) ↔
      Entered request.merchantId capability database ∧
        (∃ mandate, findMandate database request.mandateId request.merchantId = some mandate ∧
          Qualifiable request.hardConstraints request.mandateId mandate database) ∧
        row = constraintSetRow request setId constraintId ∧
        ∃ constraintSets, database.constraintSets.insert? row = some constraintSets ∧
          final =
            { database with
              constraintSets := constraintSets
              auditEvents := database.auditEvents ++
                [constraintsCreatedEvent row credentialId request] } := by
  simp only [createConstraints, insertConstraintSet, requireAllowed, appendAudit, bind_assoc,
    checking_bind_eq_ok_iff, get_bind, require_bind_eq_ok_iff,
    refuseWhen_bind_eq_ok_iff, lift_bind, except_bind_eq_ok_iff,
    set_bind, modify_bind, pure_eq_ok_iff, Entered]
  constructor
  · rintro ⟨allowed, merchant, known, mandate, found, active, unqualified, _, permits, single,
      constraintSets, inserted, rfl, rfl⟩
    refine ⟨⟨allowed, merchant, known⟩, ⟨mandate, found, ?_⟩, rfl, constraintSets, inserted, rfl⟩
    exact ⟨not_not.mp active, Option.not_isSome_iff_eq_none.mp unqualified,
      any_mandateId_iff.mp single, Transaction.forM_eq_ok_iff.mp permits⟩
  · rintro ⟨⟨allowed, merchant, known⟩, ⟨mandate, found, active, unqualified, single, permits⟩,
      rfl, constraintSets, inserted, rfl⟩
    exact ⟨allowed, merchant, known, mandate, found, not_not.mpr active,
      Option.not_isSome_iff_eq_none.mpr unqualified, ⟨⟩, Transaction.forM_eq_ok_iff.mpr permits,
      any_mandateId_iff.mpr single, constraintSets, inserted, rfl, rfl⟩

omit [CaseFolding] in
/-- What is checked against a mandate is refused with a conflict. -/
theorem checkAgainstMandate_ne_integrityError {mandate : SpendingMandate}
    {constraints : List HardConstraint} (name : String) :
    forM constraints (checkAgainstMandate mandate) ≠ .error (.integrityError name) := by
  intro failed
  obtain ⟨constraint, _, refused⟩ := Transaction.exists_of_forM_eq_error failed
  cases constraint with
  | maxTotalAmount amountMinor currency =>
      rw [checkAgainstMandate] at refused
      split at refused
      · cases refused
      · split at refused <;> cases refused
  | maxQuantity quantity =>
      rw [checkAgainstMandate] at refused
      cases ceiling : mandate.maxQuantity with
      | none =>
          rw [ceiling] at refused
          cases refused
      | some bound =>
          simp only [ceiling] at refused
          split at refused <;> cases refused
  | requiredAttribute name operator value => cases refused
  | allowedCategory category => cases refused

/-- Under a fresh identifier nothing that is raised comes from the database. -/
theorem createConstraints_ne_integrityError
    (fresh : ∀ other ∈ database.constraintSets, other.id ≠ setId) (name : String) :
    createConstraints request capability credentialId setId constraintId database ≠
      .error (.integrityError name) := by
  simp only [createConstraints, insertConstraintSet, requireAllowed, appendAudit, bind_assoc, ne_eq,
    checking_bind_eq_error_iff, get_bind,
    require_bind_eq_error_iff, refuseWhen_bind_eq_error_iff,
    lift_bind, except_bind_eq_error_iff, set_bind, modify_bind,
    pure_eq_error_iff, reduceCtorEq, and_false, false_or, exists_false, or_false]
  rintro (refused | ⟨_, _, _, mandate, _, _, _, checked | ⟨_, _, _, taken, _⟩⟩)
  · exact mutationRefusal_ne_integrityError refused
  · exact checkAgainstMandate_ne_integrityError name checked
  · obtain ⟨other, member, sameKey⟩ := Table.insert?_eq_none_iff.mp taken
    exact fresh other member sameKey

/-- The command of a request, performed for the merchant of the credential. -/
def qualify (input : ConstraintsInput) (mandateId merchantId : Uuid)
    (capability : Option BenchmarkRunCapability) (credentialId : Option Uuid) (setId : Uuid)
    (constraintId : Nat → Uuid) : Session IntentConstraintSet := do
  let command ← enforce (input.toCommand mandateId merchantId)
  createConstraints command capability credentialId setId constraintId

/-- What a stored set carries: the rules of the request, in rows of their own, and one event. -/
structure Qualified (input : ConstraintsInput) (mandateId merchantId setId : Uuid)
    (before : Database) (row : IntentConstraintSet) (after : Database) : Prop where
  id : row.id = setId
  merchant : row.merchantId = merchantId
  mandate : row.mandateId = mandateId
  rules : ∃ specs, semanticSpecs input.constraints = .ok specs ∧
    SpecsEnforce input.constraints specs ∧
    row.constraints.map IntentConstraint.fields = specs.map IntentConstraintSpec.fields
  written : ∃ constraintSets event, before.constraintSets.insert? row = some constraintSets ∧
    event.eventType = .intentConstraintsCreated ∧ event.resourceId = row.id ∧
    after =
      { before with
        constraintSets := constraintSets
        auditEvents := before.auditEvents ++ [event] }

/-- No rule of the request has a text with U+0000. -/
def ConstraintsInput.Storable (input : ConstraintsInput) : Prop :=
  ∀ specs, semanticSpecs input.constraints = .ok specs →
    ∀ spec ∈ specs, HeldTexts (specTexts spec)

variable {input : ConstraintsInput} {mandateId merchantId : Uuid}

theorem qualify_eq {command : NewIntentConstraints}
    (isCommand : input.toCommand mandateId merchantId = .ok command) :
    qualify input mandateId merchantId capability credentialId setId constraintId =
      createConstraints command capability credentialId setId constraintId := by
  rw [qualify, isCommand, enforce_ok_bind]

/-- A set that is created carries the rules of the request. -/
theorem qualified_of_created (constraints : request.hardConstraints = input.constraints)
    (created : createConstraints request capability credentialId setId constraintId database =
      .ok (row, final)) :
    Qualified input request.mandateId request.merchantId setId database row final := by
  obtain ⟨_, _, rfl, constraintSets, inserted, rfl⟩ := createConstraints_eq_ok_iff.mp created
  have specs := semanticSpecs_of_accepted request.accepted
  have enforced := request_specs_enforce request
  rw [constraints] at specs enforced
  constructor
  · rfl
  · rfl
  · rfl
  · exact ⟨request.specs, specs, enforced, map_constraintSetRow request setId constraintId id⟩
  · exact ⟨constraintSets, _, inserted, rfl, rfl, rfl⟩

/-- An accepted request settles exactly if the mandate that it reads can be loaded and, where it
gets as far as writing, no rule of it has a text with U+0000. -/
theorem qualify_settles_iff (request : CreateIntentConstraintsRequest)
    (fits : database.fits = true)
    (fresh : ∀ other ∈ database.constraintSets, other.id ≠ setId) :
    (serve
        (mandateRead merchantId capability (findMandate database mandateId merchantId) database)
        (qualify request.input mandateId merchantId capability credentialId setId constraintId)
        database).Settles
          (Qualified request.input mandateId merchantId setId database) ↔
      (Entered merchantId capability database →
        ∀ mandate, findMandate database mandateId merchantId = some mandate →
          mandate.isLoaded = true ∧
            (Qualifiable request.input.constraints mandateId mandate database →
              request.input.Storable)) := by
  obtain ⟨command, isCommand⟩ := exists_constraintsCommand request mandateId merchantId
  have made := isCommand
  rw [ConstraintsInput.toCommand, check_bind_eq_ok_iff, make_eq_ok_iff] at made
  obtain ⟨_, rfl, rfl, constraints⟩ := made
  have specs := semanticSpecs_of_accepted command.accepted
  rw [constraints] at specs
  have storable : request.input.Storable ↔ ∀ spec ∈ command.specs, HeldTexts (specTexts spec) := by
    constructor
    · exact fun held => held command.specs specs
    · intro held other computed
      rw [← Except.ok.inj (specs.symm.trans computed)]
      exact held
  have fitsFinal {row : IntentConstraintSet} {constraintSets : Table IntentConstraintSet}
      (isRow : row = constraintSetRow command setId constraintId)
      (inserted : database.constraintSets.insert? row = some constraintSets) :
      ({ database with
          constraintSets := constraintSets
          auditEvents := database.auditEvents ++
            [constraintsCreatedEvent row credentialId command] } : Database).fits = true ↔
        request.input.Storable := by
    have event : (constraintsCreatedEvent row credentialId command).fits = true ↔
        request.input.Storable := by
      rw [storable, ← fits_constraintsEvent]
      simp +decide [AuditEvent.fits, constraintsCreatedEvent]
    rw [fits_constraintSets fits (Table.insert?_eq_some_iff.mp inserted).2, event, isRow,
      fits_constraintSetRow, ← storable, and_self]
  rw [qualify_eq isCommand, settles_serve_iff]
  · constructor
    · rintro ⟨loaded, _, stored⟩ entered mandate found
      refine ⟨loaded mandate (mem_mandateRead_iff.mpr ⟨entered, found⟩), ?_⟩
      intro qualifiable
      rw [← constraints] at qualifiable
      obtain ⟨constraintSets, inserted⟩ : ∃ constraintSets,
          database.constraintSets.insert? (constraintSetRow command setId constraintId) =
            some constraintSets :=
        exists_insert? fresh
      have final := stored _ _ (createConstraints_eq_ok_iff.mpr
        ⟨entered, ⟨mandate, found, qualifiable⟩, rfl, constraintSets, inserted, rfl⟩)
      exact (fitsFinal rfl inserted).mp final
    · intro condition
      refine ⟨?_, createConstraints_ne_integrityError fresh, ?_⟩
      · intro mandate read
        obtain ⟨entered, found⟩ := mem_mandateRead_iff.mp read
        exact (condition entered mandate found).1
      · intro row final qualified
        obtain ⟨entered, ⟨mandate, found, qualifiable⟩, isRow, constraintSets, inserted, rfl⟩ :=
          createConstraints_eq_ok_iff.mp qualified
        rw [constraints] at qualifiable
        exact (fitsFinal isRow inserted).mpr ((condition entered mandate found).2 qualifiable)
  · intro row final qualified
    exact qualified_of_created constraints qualified

end Call

end AgentRank.Checkout
