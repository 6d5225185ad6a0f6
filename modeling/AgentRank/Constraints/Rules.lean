import AgentRank.Text.Normalization
import Mathlib.Data.Rat.Defs
import Mathlib.Algebra.Order.Ring.Rat

/-!
# The vocabulary an authoritative constraint is written in

This module models `constraints/rules.py`: the closed set of operators, the
kinds of comparable value, attribute lookup, comparison, and the validation
that every stored constraint has passed.  Types never coerce, and a comparison
between two kinds of value has no answer rather than a negative one.

Numbers are exact.  Python compares an `int` with a finite `float` exactly, so a
finite number is a rational; the three non-finite floats are kept apart because
validation refuses them.
-/

namespace AgentRank.Constraints

open Text

def maxAttributeKeyLength : Nat := 200
def maxTextValueLength : Nat := 200

/-- The ceiling on the members of one membership list. -/
def maxValueMembers : Nat := 50

/-! ## Values -/

/-- A Python number: an integer or a finite float, or a non-finite float. -/
inductive Number
  | finite (value : ℚ)
  | posInf
  | negInf
  | nan
deriving DecidableEq

namespace Number

/-- Python's `==` on numbers.  A NaN equals nothing, itself included. -/
def eq : Number → Number → Bool
  | finite first, finite second => decide (first = second)
  | posInf, posInf => true
  | negInf, negInf => true
  | _, _ => false

/-- Python's `<=` on numbers.  Every comparison with a NaN is false. -/
def le : Number → Number → Bool
  | nan, _ => false
  | _, nan => false
  | negInf, _ => true
  | _, posInf => true
  | finite first, finite second => decide (first ≤ second)
  | _, _ => false

/-- `math.isfinite`. -/
def isFinite : Number → Bool
  | finite _ => true
  | _ => false

end Number

/-- A value this vocabulary can compare: `str | int | float | bool`. -/
inductive ScalarValue
  | string (value : String)
  | number (value : Number)
  | boolean (value : Bool)
deriving DecidableEq

/-- What one attribute of a catalog document holds. -/
inductive Json
  | null
  | scalar (value : ScalarValue)
  | array (items : List Json)
  | object (fields : List (String × Json))

/-- A JSON object read as a Python mapping: no key occurs twice. -/
structure Attributes where
  items : List (String × Json)
  keysNodup : (items.map Prod.fst).Nodup

/-- The value of a constraint: one scalar, or a tuple of them. -/
inductive ConstraintValue
  | single (value : ScalarValue)
  | tuple (members : List ScalarValue)
deriving DecidableEq

/-- `to_stored_value`: a tuple becomes an array, a scalar stays a scalar. -/
def ConstraintValue.toStoredValue : ConstraintValue → Json
  | single value => .scalar value
  | tuple members => .array (members.map Json.scalar)

/-- How a constraint value is compared against what a checkout carries. -/
inductive ConstraintOperator
  | eq
  | ne
  | gte
  | lte
  | isIn
deriving DecidableEq

/-- The stored name of an operator. -/
def ConstraintOperator.value : ConstraintOperator → String
  | eq => "EQ"
  | ne => "NE"
  | gte => "GTE"
  | lte => "LTE"
  | isIn => "IN"

/-- The kinds of value this vocabulary can compare. -/
inductive ConstraintValueType
  | string
  | number
  | boolean
deriving DecidableEq

/-- The constraint kinds that are stored as authorization data. -/
inductive PersistedConstraintKind
  | allowedCategory
  | requiredAttribute
deriving DecidableEq

/-- The kind of a scalar.  A boolean is never a number. -/
def ScalarValue.valueType : ScalarValue → ConstraintValueType
  | string _ => .string
  | number _ => .number
  | boolean _ => .boolean

variable [CaseFolding]

/-- The one normalization applied before any text comparison. -/
def normalizeText (value : String) : String :=
  casefold (strip value)

/-- Find an attribute by name.  An exact match wins; failing that, a single
match after normalization; an ambiguous name is reported as missing. -/
def lookupAttribute (attributes : Attributes) (key : String) : Option Json :=
  match attributes.items.lookup key with
  | some value => some value
  | none =>
      let wanted := normalizeText key
      match attributes.items.filter fun item => normalizeText item.1 == wanted with
      | [item] => some item.2
      | _ => none

/-- The number a boolean is equal to under Python's `==`. -/
def boolNumber (value : Bool) : Number :=
  .finite (if value then 1 else 0)

/-- Python's `==` on scalars, with text normalized on both sides. -/
def equal : ScalarValue → ScalarValue → Bool
  | .string expected, .string actual =>
      normalizeText expected == normalizeText actual
  | .number expected, .number actual => expected.eq actual
  | .boolean expected, .boolean actual => expected == actual
  | .number expected, .boolean actual => expected.eq (boolNumber actual)
  | .boolean expected, .number actual => (boolNumber expected).eq actual
  | _, _ => false

/-- Compare a single expected value with a scalar of the same kind. -/
def compareSingle (operator : ConstraintOperator) (expected actual : ScalarValue) :
    Option Bool :=
  if expected.valueType ≠ actual.valueType then none
  else
    match operator with
    | .eq => some (equal expected actual)
    | .ne => some (!equal expected actual)
    | .gte =>
        match expected, actual with
        | .number bound, .number value => some (bound.le value)
        | _, _ => none
    | .lte =>
        match expected, actual with
        | .number bound, .number value => some (value.le bound)
        | _, _ => none
    | .isIn => none

/-- Compare a checkout value against a constraint value.  `none` means that the
two are not of the same kind and cannot be compared at all. -/
def compare (operator : ConstraintOperator) (expected : ConstraintValue)
    (actual : Json) : Option Bool :=
  match actual with
  | .scalar actual =>
      match operator, expected with
      | .isIn, .tuple [] => none
      | .isIn, .tuple (first :: rest) =>
          if first.valueType ≠ actual.valueType then none
          else some ((first :: rest).any fun member => equal member actual)
      | .isIn, .single _ => none
      | _, .tuple _ => none
      | operator, .single expected => compareSingle operator expected actual
  | _ => none

/-! ## Validation -/

omit [CaseFolding]

/-- A refusal raised while a value is built: its text, and the offending value
where the text ends by printing it. -/
structure ValueError where
  message : String
  got : Option ScalarValue := none
deriving DecidableEq

/-- Refuse a scalar no constraint may carry, and name the kind of the rest. -/
def validatedScalar (value : ScalarValue) :
    Except ValueError ConstraintValueType :=
  match value with
  | .string text =>
      if isBlank text then
        .error { message := "a constraint value must not be blank" }
      else if maxTextValueLength < text.length then
        .error
          { message :=
              s!"a constraint value must be at most {maxTextValueLength} characters" }
      else .ok .string
  | .number number =>
      if number.isFinite then .ok .number
      else
        .error
          { message := "a numeric constraint value must be finite, got "
            got := some value }
  | .boolean _ => .ok .boolean

/-- Whether an operator orders its operands. -/
def ConstraintOperator.isOrdering : ConstraintOperator → Bool
  | gte => true
  | lte => true
  | _ => false

/-- Refuse a value the operator cannot compare. -/
def validateConstraintValue (operator : ConstraintOperator)
    (value : ConstraintValue) : Except ValueError Unit :=
  match operator, value with
  | .isIn, .single _ =>
      .error { message := "an IN constraint takes a list of values" }
  | .isIn, .tuple members =>
      if members.isEmpty then
        .error { message := "an IN constraint must list at least one value" }
      else if maxValueMembers < members.length then
        .error
          { message := s!"an IN constraint may list at most {maxValueMembers} values" }
      else do
        let kinds ← members.mapM validatedScalar
        if 1 < kinds.dedup.length then
          .error { message := "an IN constraint must list values of one type" }
        else .ok ()
  | operator, .tuple _ =>
      .error
        { message :=
            s!"the {operator.value} operator takes a single value, not a list" }
  | operator, .single scalar => do
      let kind ← validatedScalar scalar
      if operator.isOrdering && kind != .number then
        .error
          { message := s!"the {operator.value} operator compares numbers, got "
            got := some scalar }
      else .ok ()

/-- The fields of one constraint, before anything has checked them. -/
structure ConstraintFields where
  kind : PersistedConstraintKind
  attributeKey : Option String
  operator : ConstraintOperator
  value : ConstraintValue
deriving DecidableEq

/-- `IntentConstraintSpec.__post_init__`. -/
def ConstraintFields.validate (fields : ConstraintFields) :
    Except ValueError Unit := do
  validateConstraintValue fields.operator fields.value
  match fields.kind with
  | .allowedCategory =>
      if fields.attributeKey.isSome then
        .error { message := "an allowed category constraint has no attribute key" }
      else if fields.operator ≠ .isIn then
        .error { message := "an allowed category constraint compares with IN" }
      else .ok ()
  | .requiredAttribute =>
      match fields.attributeKey with
      | none =>
          .error { message := "a required attribute constraint must name an attribute" }
      | some key =>
          if isBlank key then
            .error { message := "a required attribute constraint must name an attribute" }
          else if maxAttributeKeyLength < key.length then
            .error
              { message :=
                  s!"attribute key must be at most {maxAttributeKeyLength} characters" }
          else .ok ()

/-- One authoritative constraint.  Building one is what proves that it is well
formed, so an unvalidated constraint reaches neither the table nor the
evaluator. -/
structure IntentConstraintSpec where
  fields : ConstraintFields
  valid : fields.validate = .ok ()

namespace IntentConstraintSpec

/-- Build a constraint, or refuse its fields. -/
def make (fields : ConstraintFields) : Except ValueError IntentConstraintSpec :=
  match h : fields.validate with
  | .ok () => .ok ⟨fields, h⟩
  | .error refusal => .error refusal

theorem make_eq_ok_iff {fields : ConstraintFields} {spec : IntentConstraintSpec} :
    make fields = .ok spec ↔ spec.fields = fields := by
  constructor
  · intro made
    unfold make at made
    split at made
    · cases made
      rfl
    · cases made
  · intro sameFields
    subst sameFields
    unfold make
    split
    · rfl
    · next refusal refused =>
        rw [spec.valid] at refused
        cases refused

@[simp]
theorem make_fields (spec : IntentConstraintSpec) : make spec.fields = .ok spec :=
  make_eq_ok_iff.mpr rfl

/-- Every category a purchase may come from, as one membership rule. -/
def allowedCategories (categories : List String) :
    Except ValueError IntentConstraintSpec :=
  make
    { kind := .allowedCategory
      attributeKey := none
      operator := .isIn
      value := .tuple (categories.map .string) }

/-- One rule about one attribute. -/
def requiredAttribute (attributeKey : String) (operator : ConstraintOperator)
    (value : ConstraintValue) : Except ValueError IntentConstraintSpec :=
  make
    { kind := .requiredAttribute
      attributeKey := some attributeKey
      operator := operator
      value := value }

end IntentConstraintSpec

end AgentRank.Constraints
