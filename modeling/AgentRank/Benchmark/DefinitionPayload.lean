import AgentRank.Benchmark.Discovery
import AgentRank.Representation.JsonRoundTrip

/-!
# Definitions as JSON

This module models the payloads of `mandates/intent.py` and `benchmark/definitions.py`, and how
they are read.  What is read is built through the checks of what it becomes, so a payload that
no constructor would accept is refused.

An integer and the double it equals are one number here.
-/

namespace AgentRank.Constraints

open Store

inductive ConstraintKind
  | maxTotalAmount
  | maxQuantity
  | requiredAttribute
  | allowedCategory
deriving DecidableEq

def ConstraintKind.value : ConstraintKind → String
  | maxTotalAmount => "max_total_amount"
  | maxQuantity => "max_quantity"
  | requiredAttribute => "required_attribute"
  | allowedCategory => "allowed_category"

def wholeNumber (value : Int) : Json :=
  .scalar (.number (.finite value))

/-- The fields of `to_payload`. -/
def HardConstraint.fields : HardConstraint → List (String × Json)
  | maxTotalAmount amountMinor currency =>
      [("kind", Payload.text ConstraintKind.maxTotalAmount.value),
        ("amount_minor", wholeNumber amountMinor), ("currency", Payload.text currency)]
  | maxQuantity quantity =>
      [("kind", Payload.text ConstraintKind.maxQuantity.value), ("quantity", wholeNumber quantity)]
  | requiredAttribute name operator value =>
      [("kind", Payload.text ConstraintKind.requiredAttribute.value), ("name", Payload.text name),
        ("operator", Payload.text operator.value), ("value", value.toStoredValue)]
  | allowedCategory category =>
      [("kind", Payload.text ConstraintKind.allowedCategory.value),
        ("category", Payload.text category)]

def HardConstraint.toPayload (constraint : HardConstraint) : Json :=
  .object constraint.fields

instance : Dataclass HardConstraint where
  refusal constraint :=
    match constraint.validate with
    | .ok () => none
    | .error error => some error

theorem HardConstraint.refusal_eq_none_iff {constraint : HardConstraint} :
    Dataclass.refusal constraint = none ↔ constraint.validate = .ok () := by
  change (match constraint.validate with
    | .ok () => none
    | .error error => some error) = none ↔ _
  cases constraint.validate <;> simp

end AgentRank.Constraints

namespace AgentRank.Benchmark

open Constraints Representation Store Text

def refuse {α : Type} (message : String) (got : Option ScalarValue) : Except ReadError α :=
  .error (.valueError { message := message, got := got })

/-- The value that a message prints, where it is a scalar. -/
def printed : Option Json → Option ScalarValue
  | some (.scalar value) => some value
  | _ => none

def requireStr (payload : Json) (field : String) : Except ReadError String := do
  match ← fieldOf payload field with
  | some (.scalar (.string text)) => return text
  | other => refuse s!"{field} must be text, got " (printed other)

def requireInt (payload : Json) (field : String) : Except ReadError Int := do
  match ← fieldOf payload field with
  | some (.scalar (.number (.finite value))) =>
      if value.den = 1 then return value.num
      else refuse s!"{field} must be a whole number, got " (some (.number (.finite value)))
  | other => refuse s!"{field} must be a whole number, got " (printed other)

def requireScalar : Option Json → Except ReadError ScalarValue
  | some (.scalar value) => .ok value
  | _ => refuse "a constraint value must be text, a number or a boolean, got " none

def requireValue (payload : Json) : Except ReadError ConstraintValue := do
  match ← fieldOf payload "value" with
  | some (.array members) =>
      return .tuple (← members.mapM fun member => requireScalar (some member))
  | raw => return .single (← requireScalar raw)

def constraintOperators : List ConstraintOperator :=
  [.eq, .ne, .gte, .lte, .isIn]

/-- `ConstraintOperator(...)`. -/
def operatorOf (text : String) : Except ReadError ConstraintOperator :=
  match constraintOperators.find? fun operator => operator.value = text with
  | some operator => .ok operator
  | none => refuse "not a valid ConstraintOperator: " (some (.string text))

def hardConstraintFromPayload (payload : Json) : Except ReadError (Made HardConstraint) := do
  match ← fieldOf payload "kind" with
  | some (.scalar (.string kind)) =>
      if kind = ConstraintKind.maxTotalAmount.value then
        let amountMinor ← requireInt payload "amount_minor"
        let currency ← requireStr payload "currency"
        built (.maxTotalAmount amountMinor currency)
      else if kind = ConstraintKind.maxQuantity.value then
        let quantity ← requireInt payload "quantity"
        built (.maxQuantity quantity)
      else if kind = ConstraintKind.requiredAttribute.value then
        let name ← requireStr payload "name"
        let operator ← operatorOf (← requireStr payload "operator")
        let value ← requireValue payload
        built (.requiredAttribute name operator value)
      else if kind = ConstraintKind.allowedCategory.value then
        let category ← requireStr payload "category"
        built (.allowedCategory category)
      else refuse "unknown hard constraint kind: " (some (.string kind))
  | other => refuse "unknown hard constraint kind: " (printed other)

/-- A payload is read as a value, and so is what any text of it means. -/
def ReadsBack {α : Type} (read : Json → Except ReadError α) (payload : Json) (value : α) : Prop :=
  read payload = .ok value ∧
    ∀ gaps text, dumps gaps payload = some text →
      ∃ document, loads text = .ok document ∧ read document = .ok value

theorem readsBack_of_distinct {α : Type} {read : Json → Except ReadError α} {payload : Json}
    {value : α} (distinct : DistinctKeys payload) (isRead : read payload = .ok value) :
    ReadsBack read payload value :=
  ⟨isRead, fun _ _ written => ⟨payload, loads_dumps distinct written, isRead⟩⟩

/-! ## Hard constraints are read as they were written -/

section HardConstraints

variable {fields : List (String × Json)}

theorem fieldOf_object {name : String} {held : Option Json} (isHeld : fields.lookup name = held) :
    fieldOf (.object fields) name = .ok held := by
  rw [← isHeld]
  rfl

theorem requireStr_object {name text : String}
    (isHeld : fields.lookup name = some (Payload.text text)) :
    requireStr (.object fields) name = .ok text := by
  rw [requireStr, fieldOf_object isHeld]
  rfl

theorem requireInt_object {name : String} {value : Int}
    (isHeld : fields.lookup name = some (wholeNumber value)) :
    requireInt (.object fields) name = .ok value := by
  rw [requireInt, fieldOf_object isHeld]
  rfl

theorem mapM_requireScalar (members : List ScalarValue) :
    (members.map Json.scalar).mapM (fun member => requireScalar (some member)) = .ok members := by
  induction members with
  | nil => rfl
  | cons member rest ih =>
      rw [List.map_cons, List.mapM_cons, ih]
      rfl

theorem requireValue_object {value : ConstraintValue}
    (isHeld : fields.lookup "value" = some value.toStoredValue) :
    requireValue (.object fields) = .ok value := by
  rw [requireValue, fieldOf_object isHeld]
  cases value with
  | single scalar => rfl
  | tuple members =>
      change (do
        return .tuple (← (members.map Json.scalar).mapM fun member =>
          requireScalar (some member)) : Except ReadError ConstraintValue) = _
      rw [mapM_requireScalar]
      rfl

theorem operatorOf_value (operator : ConstraintOperator) :
    operatorOf operator.value = .ok operator := by
  cases operator <;> rfl

/-- An object that holds what a constraint writes is read as the constraint. -/
theorem hardConstraintFromPayload_object (constraint : Made HardConstraint)
    (holds : ∀ name, fields.lookup name = constraint.fields.fields.lookup name) :
    hardConstraintFromPayload (.object fields) = .ok constraint := by
  have isBuilt : built constraint.fields = .ok constraint := by
    rw [built, make_made]
    rfl
  rw [hardConstraintFromPayload, fieldOf_object (holds "kind")]
  cases constraintEq : constraint.fields with
  | maxTotalAmount amountMinor currency =>
      rw [constraintEq] at holds isBuilt
      have amount : requireInt (.object fields) "amount_minor" = .ok amountMinor :=
        requireInt_object (holds "amount_minor")
      have code : requireStr (.object fields) "currency" = .ok currency :=
        requireStr_object (holds "currency")
      simp only [amount, code]
      exact isBuilt
  | maxQuantity quantity =>
      rw [constraintEq] at holds isBuilt
      have ceiling : requireInt (.object fields) "quantity" = .ok quantity :=
        requireInt_object (holds "quantity")
      simp only [ceiling]
      exact isBuilt
  | requiredAttribute name operator value =>
      rw [constraintEq] at holds isBuilt
      have named : requireStr (.object fields) "name" = .ok name :=
        requireStr_object (holds "name")
      have comparison : requireStr (.object fields) "operator" = .ok operator.value :=
        requireStr_object (holds "operator")
      have compared : requireValue (.object fields) = .ok value :=
        requireValue_object (holds "value")
      simp only [named, comparison, compared]
      change (do
        let operator ← operatorOf operator.value
        built (HardConstraint.requiredAttribute name operator value)) = _
      rw [operatorOf_value]
      exact isBuilt
  | allowedCategory category =>
      rw [constraintEq] at holds isBuilt
      have allowed : requireStr (.object fields) "category" = .ok category :=
        requireStr_object (holds "category")
      simp only [allowed]
      exact isBuilt

theorem distinctKeys_toStoredValue (value : ConstraintValue) :
    DistinctKeys value.toStoredValue := by
  cases value with
  | single scalar => exact .scalar scalar
  | tuple members =>
      refine .array _ fun item member => ?_
      obtain ⟨scalar, _, rfl⟩ := List.mem_map.mp member
      exact .scalar scalar

theorem keysNodup_fields (constraint : HardConstraint) :
    (constraint.fields.map Prod.fst).Nodup := by
  cases constraint <;> simp [HardConstraint.fields]

theorem distinctKeys_toPayload (constraint : HardConstraint) :
    DistinctKeys constraint.toPayload := by
  refine .object _ (keysNodup_fields constraint) fun field member => ?_
  cases constraint with
  | requiredAttribute name operator value =>
      simp only [HardConstraint.fields, List.mem_cons, List.not_mem_nil, or_false] at member
      rcases member with rfl | rfl | rfl | rfl
      · exact .scalar _
      · exact .scalar _
      · exact .scalar _
      · exact distinctKeys_toStoredValue value
  | maxTotalAmount | maxQuantity | allowedCategory =>
      simp only [HardConstraint.fields, List.mem_cons, List.not_mem_nil, or_false] at member
      rcases member with rfl | rfl | rfl <;> exact .scalar _

end HardConstraints

/-! ## Briefs -/

def MaxTotalAmount.toPayload (budget : MaxTotalAmount) : Json :=
  (HardConstraint.maxTotalAmount budget.amountMinor budget.currency).toPayload

def AgentMissionBrief.fields (brief : AgentMissionBrief) : List (String × Json) :=
  [("key", Payload.text brief.key), ("objective", Payload.text brief.objective),
    ("quantity", Payload.number brief.quantity), ("budget", brief.budget.toPayload),
    ("hard_constraints", .array (brief.hardConstraints.map HardConstraint.toPayload)),
    ("preferences", .array (brief.preferences.map Payload.text))]

def AgentMissionBrief.toPayload (brief : AgentMissionBrief) : Json :=
  .object brief.fields

/-- The budget that a constraint states. -/
def budgetOf : HardConstraint → Option MaxTotalAmount
  | .maxTotalAmount amountMinor currency =>
      if isCurrency : isCurrencyCode currency = true then
        some ⟨amountMinor.toNat, currency, isCurrency⟩
      else none
  | _ => none

/-- `Preference(...)`. -/
def preferenceOf : Json → Except ReadError { statement : String // isStatement statement = true }
  | .scalar (.string statement) =>
      if isStated : isStatement statement = true then .ok ⟨statement, isStated⟩
      else if isBlank statement then refuse "preference statement must not be blank" none
      else refuse s!"preference statement must be at most {maxStatementLength} characters" none
  | _ => .error .attributeError

/-- `validate_key`. -/
def keyOf (label : String) : Json → Except ReadError { key : String // isKey key = true }
  | .scalar (.string key) =>
      if isValid : isKey key = true then .ok ⟨key, isValid⟩
      else if maxKeyLength < key.length then
        refuse s!"{label} must be at most {maxKeyLength} characters" none
      else
        refuse s!"{label} must match ^[a-z0-9]+(-[a-z0-9]+)*$, got " (some (.string key))
  -- A list and an object have a length, and no pattern is looked for in them.
  | .array items =>
      if maxKeyLength < items.length then
        refuse s!"{label} must be at most {maxKeyLength} characters" none
      else .error .typeError
  | .object fields =>
      if maxKeyLength < fields.length then
        refuse s!"{label} must be at most {maxKeyLength} characters" none
      else .error .typeError
  | _ => .error .typeError

def objectiveOf : Json → Except ReadError
    { objective : String //
      isBlank objective = false ∧ objective.length ≤ maxDescriptionLength }
  | .scalar (.string objective) =>
      if isValid : isBlank objective = false ∧ objective.length ≤ maxDescriptionLength then
        .ok ⟨objective, isValid⟩
      else if isBlank objective then refuse "mission objective must not be blank" none
      else
        refuse s!"mission objective must be at most {maxDescriptionLength} characters" none
  | _ => .error .attributeError

/-- The quantity of a brief.  A boolean is an integer, and a fraction is none. -/
def quantityOf : Json → Except ReadError { quantity : Nat // 0 < quantity }
  | .scalar (.number (.finite value)) =>
      if isPositive : 0 < value.num.toNat ∧ value.den = 1 then .ok ⟨value.num.toNat, isPositive.1⟩
      else if value ≤ 0 then
        refuse "mission quantity must be positive, got " (some (.number (.finite value)))
      else .error .typeError
  | .scalar (.boolean true) => .ok ⟨1, Nat.one_pos⟩
  | .scalar (.boolean false) =>
      refuse "mission quantity must be positive, got " (some (.boolean false))
  | _ => .error .typeError

def statesNoAmount (constraints : List HardConstraint) : Bool :=
  constraints.all fun constraint =>
    match constraint with
    | .maxTotalAmount _ _ => false
    | _ => true

def hasExactValue : HardConstraint → Bool
  | .requiredAttribute _ _ value => exactValue value
  | _ => true

/-- `AgentMissionBrief.__post_init__`, of parts that are read. -/
def AgentMissionBrief.checked (key objective quantity : Json) (budget : MaxTotalAmount)
    (constraints : List (Made HardConstraint))
    (preferences : List { statement : String // isStatement statement = true }) :
    Except ReadError AgentMissionBrief := do
  let key ← keyOf "mission key" key
  let objective ← objectiveOf objective
  let quantity ← quantityOf quantity
  let stated := constraints.map Made.fields
  if budgetPositive : 0 < budget.amountMinor then
    if constraintsBounded : stated.length ≤ maxHardConstraints then
      if preferencesBounded : preferences.length ≤ maxPreferences then
        if noAmount : statesNoAmount stated = true then
          if oneCeiling : stated.countP isMaxQuantity ≤ 1 then
            if authorized : (statedMaxQuantity stated).all
                (fun ceiling => decide ((quantity.val : Int) ≤ ceiling)) = true then
              if exact : stated.all hasExactValue = true then
                return {
                  key := key.val
                  objective := objective.val
                  budget := budget
                  quantity := quantity.val
                  hardConstraints := stated
                  preferences := preferences.map Subtype.val
                  isKey := key.property
                  objectiveStated := objective.property.1
                  objectiveBounded := objective.property.2
                  quantityPositive := quantity.property
                  budgetPositive := budgetPositive
                  constraintsBounded := constraintsBounded
                  preferencesBounded := by rwa [List.length_map]
                  preferencesStated := by
                    intro statement member
                    obtain ⟨stated, _, rfl⟩ := List.mem_map.mp member
                    exact stated.property
                  noAmountConstraint := by
                    intro amountMinor currency member
                    exact absurd (List.all_eq_true.mp noAmount _ member) Bool.false_ne_true
                  oneCeiling := oneCeiling
                  quantityAuthorized := by
                    intro ceiling isStated
                    rw [isStated] at authorized
                    exact of_decide_eq_true authorized
                  constraintsValid := by
                    intro constraint member
                    obtain ⟨made, _, rfl⟩ := List.mem_map.mp member
                    exact HardConstraint.refusal_eq_none_iff.mp made.sound
                  exactValues := by
                    intro name operator value member
                    exact List.all_eq_true.mp exact _ member }
              else
                refuse ("a mission constraint value must be a whole number, text or a boolean,"
                  ++ " got the fractional value ") none
            else
              refuse s!"a mission cannot want {quantity.val} units while authorizing {(statedMaxQuantity stated).getD 0}" none
          else refuse "a mission states at most one quantity ceiling" none
        else
          refuse "a mission states its amount ceiling as its budget, not as a constraint" none
      else refuse s!"at most {maxPreferences} preferences are allowed" none
    else refuse s!"at most {maxHardConstraints} hard constraints are allowed" none
  else refuse "a mission budget must be positive" none

def AgentMissionBrief.fromPayload (payload : Json) : Except ReadError AgentMissionBrief := do
  let budget ← hardConstraintFromPayload (← itemOf payload "budget")
  match budgetOf budget.fields with
  | none => refuse "a mission budget must be a max_total_amount constraint" none
  | some budget =>
      let key ← itemOf payload "key"
      let objective ← itemOf payload "objective"
      let quantity ← itemOf payload "quantity"
      let constraints ←
        (← iterationOf (← itemOf payload "hard_constraints")).mapM hardConstraintFromPayload
      let preferences ← (← iterationOf (← itemOf payload "preferences")).mapM preferenceOf
      checked key objective quantity budget constraints preferences

/-! ## Briefs are read as they were written -/

section Briefs

/-- The hard constraints of a brief, as they were checked. -/
def AgentMissionBrief.madeConstraints (brief : AgentMissionBrief) : List (Made HardConstraint) :=
  brief.hardConstraints.attach.map fun constraint =>
    { fields := constraint.val
      sound := HardConstraint.refusal_eq_none_iff.mpr
        (brief.constraintsValid constraint.val constraint.property) }

theorem map_madeConstraints (brief : AgentMissionBrief) :
    brief.madeConstraints.map Made.fields = brief.hardConstraints := by
  rw [AgentMissionBrief.madeConstraints, List.map_map]
  exact List.attach_map_subtype_val brief.hardConstraints

/-- Payloads that are read one by one are read together. -/
theorem mapM_read {α : Type} {read : Json → Except ReadError α} {written : α → Json}
    {items : List α} (isRead : ∀ item ∈ items, read (written item) = .ok item) :
    (items.map written).mapM read = .ok items := by
  induction items with
  | nil => rfl
  | cons item rest ih =>
      rw [List.map_cons, List.mapM_cons, isRead item List.mem_cons_self,
        ih fun other member => isRead other (List.mem_cons_of_mem _ member)]
      rfl

theorem hardConstraintFromPayload_toPayload (constraint : Made HardConstraint) :
    hardConstraintFromPayload constraint.fields.toPayload = .ok constraint :=
  hardConstraintFromPayload_object constraint fun _ => rfl

theorem statesNoAmount_brief (brief : AgentMissionBrief) :
    statesNoAmount brief.hardConstraints = true := by
  apply List.all_eq_true.mpr
  intro constraint member
  cases constraint with
  | maxTotalAmount amountMinor currency =>
      exact absurd member (brief.noAmountConstraint amountMinor currency)
  | maxQuantity | requiredAttribute | allowedCategory => rfl

theorem hasExactValue_brief (brief : AgentMissionBrief) :
    brief.hardConstraints.all hasExactValue = true := by
  apply List.all_eq_true.mpr
  intro constraint member
  cases constraint with
  | requiredAttribute name operator value => exact brief.exactValues name operator value member
  | maxTotalAmount | maxQuantity | allowedCategory => rfl

theorem authorized_brief (brief : AgentMissionBrief) :
    (statedMaxQuantity brief.hardConstraints).all
      (fun ceiling => decide ((brief.quantity : Int) ≤ ceiling)) = true := by
  cases stated : statedMaxQuantity brief.hardConstraints with
  | none => rfl
  | some ceiling => exact decide_eq_true (brief.quantityAuthorized ceiling stated)

/-- The preferences of a brief, as they were checked. -/
def AgentMissionBrief.madePreferences (brief : AgentMissionBrief) :
    List { statement : String // isStatement statement = true } :=
  brief.preferences.attachWith (fun statement => isStatement statement = true)
    brief.preferencesStated

theorem map_madePreferences (brief : AgentMissionBrief) :
    brief.madePreferences.map Subtype.val = brief.preferences :=
  List.attachWith_map_subtype_val brief.preferencesStated

/-- The parts of a brief pass the checks of a brief. -/
theorem checked_brief (brief : AgentMissionBrief) :
    AgentMissionBrief.checked (Payload.text brief.key) (Payload.text brief.objective)
      (Payload.number brief.quantity) brief.budget brief.madeConstraints brief.madePreferences =
        .ok brief := by
  have key : keyOf "mission key" (Payload.text brief.key) = .ok ⟨brief.key, brief.isKey⟩ :=
    dif_pos brief.isKey
  have objective : objectiveOf (Payload.text brief.objective) =
      .ok ⟨brief.objective, brief.objectiveStated, brief.objectiveBounded⟩ :=
    dif_pos ⟨brief.objectiveStated, brief.objectiveBounded⟩
  have quantity : quantityOf (Payload.number brief.quantity) =
      .ok ⟨brief.quantity, brief.quantityPositive⟩ :=
    dif_pos ⟨brief.quantityPositive, rfl⟩
  have bounded : brief.madePreferences.length ≤ maxPreferences := by
    rw [AgentMissionBrief.madePreferences, List.length_attachWith]
    exact brief.preferencesBounded
  rw [AgentMissionBrief.checked, key, objective, quantity]
  simp only [map_madeConstraints, map_madePreferences, bind, Except.bind, pure, Except.pure,
    dif_pos brief.budgetPositive, dif_pos brief.constraintsBounded, dif_pos bounded,
    dif_pos (statesNoAmount_brief brief), dif_pos brief.oneCeiling,
    dif_pos (authorized_brief brief), dif_pos (hasExactValue_brief brief)]

theorem mapM_preferenceOf (brief : AgentMissionBrief) :
    (brief.preferences.map Payload.text).mapM preferenceOf = .ok brief.madePreferences := by
  have same : brief.preferences.map Payload.text =
      brief.madePreferences.map fun statement => Payload.text statement.val := by
    conv_lhs => rw [← map_madePreferences brief]
    exact List.map_map
  rw [same]
  exact mapM_read fun statement _ => dif_pos statement.property

/-- An object that holds the parts of a brief is read as the brief. -/
theorem fromPayload_object {fields : List (String × Json)} (brief : AgentMissionBrief)
    {entries : List Json} (key : fields.lookup "key" = some (Payload.text brief.key))
    (objective : fields.lookup "objective" = some (Payload.text brief.objective))
    (quantity : fields.lookup "quantity" = some (Payload.number brief.quantity))
    (budget : fields.lookup "budget" = some brief.budget.toPayload)
    (constraints : fields.lookup "hard_constraints" = some (.array entries))
    (constraintsRead : entries.mapM hardConstraintFromPayload = .ok brief.madeConstraints)
    (preferences : fields.lookup "preferences" =
      some (.array (brief.preferences.map Payload.text))) :
    AgentMissionBrief.fromPayload (.object fields) = .ok brief := by
  have item : ∀ {name : String} {value : Json}, fields.lookup name = some value →
      itemOf (.object fields) name = .ok value := by
    intro name value isHeld
    simp only [itemOf, isHeld]
  have sound : (HardConstraint.maxTotalAmount brief.budget.amountMinor
      brief.budget.currency).validate = .ok () := by
    have notNegative : ¬(brief.budget.amountMinor : Int) < 0 := by omega
    rw [HardConstraint.validate, validateAmountMinor, validateCurrency, if_neg notNegative,
      if_pos brief.budget.isCurrency]
    rfl
  have budgetRead := hardConstraintFromPayload_toPayload
    { fields := .maxTotalAmount brief.budget.amountMinor brief.budget.currency
      sound := HardConstraint.refusal_eq_none_iff.mpr sound }
  have budgetEq : budgetOf (.maxTotalAmount brief.budget.amountMinor brief.budget.currency) =
      some brief.budget :=
    dif_pos brief.budget.isCurrency
  have checked := checked_brief brief
  rw [AgentMissionBrief.fromPayload]
  simp only [item key, item objective, item quantity, item budget, item constraints,
    item preferences, MaxTotalAmount.toPayload, budgetRead, budgetEq, iterationOf,
    constraintsRead, mapM_preferenceOf, bind, Except.bind]
  exact checked

theorem mapM_madeConstraints (brief : AgentMissionBrief) {written : HardConstraint → Json}
    (isRead : ∀ constraint : Made HardConstraint,
      hardConstraintFromPayload (written constraint.fields) = .ok constraint) :
    (brief.hardConstraints.map written).mapM hardConstraintFromPayload =
      .ok brief.madeConstraints := by
  have same : brief.hardConstraints.map written =
      brief.madeConstraints.map fun constraint => written constraint.fields := by
    conv_lhs => rw [← map_madeConstraints brief]
    exact List.map_map
  rw [same]
  exact mapM_read fun constraint _ => isRead constraint

theorem fromPayload_toPayload (brief : AgentMissionBrief) :
    AgentMissionBrief.fromPayload brief.toPayload = .ok brief :=
  fromPayload_object brief rfl rfl rfl rfl rfl
    (mapM_madeConstraints brief hardConstraintFromPayload_toPayload) rfl

theorem distinctKeys_constraints (brief : AgentMissionBrief) :
    DistinctKeys (.array (brief.hardConstraints.map HardConstraint.toPayload)) := by
  refine .array _ fun item member => ?_
  obtain ⟨constraint, _, rfl⟩ := List.mem_map.mp member
  exact distinctKeys_toPayload constraint

theorem distinctKeys_preferences (brief : AgentMissionBrief) :
    DistinctKeys (.array (brief.preferences.map Payload.text)) := by
  refine .array _ fun item member => ?_
  obtain ⟨statement, _, rfl⟩ := List.mem_map.mp member
  exact .scalar _

theorem distinctKeys_brief (brief : AgentMissionBrief) : DistinctKeys brief.toPayload := by
  refine .object _ (by simp [AgentMissionBrief.fields]) fun field member => ?_
  simp only [AgentMissionBrief.fields, List.mem_cons, List.not_mem_nil, or_false] at member
  rcases member with rfl | rfl | rfl | rfl | rfl | rfl
  · exact .scalar _
  · exact .scalar _
  · exact .scalar _
  · exact distinctKeys_toPayload _
  · exact distinctKeys_constraints brief
  · exact distinctKeys_preferences brief

end Briefs
end AgentRank.Benchmark
