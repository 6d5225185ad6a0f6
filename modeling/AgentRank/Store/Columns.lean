import AgentRank.Store.Session

/-!
# What the columns hold

An integer of Python has no bound and a text may hold any character, while a column of the
database holds a range of integers, texts of so many characters and none that holds U+0000.  A
statement that writes anything else is refused by the database, and so is one that breaks a check
constraint.  A timestamp column holds more instants than a `datetime` can name, so a row that was
written can be one that is not read again.
-/

namespace AgentRank.Store

open Constraints Relational

/-- The largest value of a `BigInteger` column. -/
def maxBigInteger : Nat := 9223372036854775807

/-- The largest value of an `Integer` column. -/
def maxInteger : Nat := 2147483647

/-- A text column holds no U+0000. -/
def holdsText (text : String) : Bool :=
  text.toList.all fun char => char.toNat != 0

/-- A text column of so many characters. -/
def holdsString (bound : Nat) (text : String) : Bool :=
  text.length ≤ bound && holdsText text

/-- A scalar as a JSON column holds it: no text with U+0000, and finite numbers. -/
def holdsScalar : ScalarValue → Bool
  | .string text => holdsText text
  | .number number => number.isFinite
  | .boolean _ => true

mutual

/-- A document as a JSON column holds it. -/
def holdsJson : Json → Bool
  | .null => true
  | .scalar value => holdsScalar value
  | .array items => holdsItems items
  | .object fields => holdsFields fields

def holdsItems : List Json → Bool
  | [] => true
  | item :: rest => holdsJson item && holdsItems rest

def holdsFields : List (String × Json) → Bool
  | [] => true
  | (key, value) :: rest => holdsText key && holdsJson value && holdsFields rest

end

theorem holdsItems_iff {items : List Json} :
    holdsItems items = true ↔ ∀ item ∈ items, holdsJson item = true := by
  induction items with
  | nil => simp [holdsItems]
  | cons item rest ih => simp [holdsItems, ih]

theorem holdsFields_iff {fields : List (String × Json)} :
    holdsFields fields = true ↔
      ∀ field ∈ fields, holdsText field.1 = true ∧ holdsJson field.2 = true := by
  induction fields with
  | nil => simp [holdsFields]
  | cons field rest ih => simp [holdsFields, ih]

theorem holdsFields_append {first second : List (String × Json)} :
    holdsFields (first ++ second) = true ↔
      holdsFields first = true ∧ holdsFields second = true := by
  rw [holdsFields_iff, holdsFields_iff, holdsFields_iff, List.forall_mem_append]

theorem holdsText_iff {text : String} :
    holdsText text = true ↔ ∀ char ∈ text.toList, char ≠ '\x00' := by
  rw [holdsText, List.all_eq_true]
  apply forall₂_congr
  intro char _
  rw [bne_iff_ne, not_iff_not]
  constructor
  · intro isZero
    exact Char.ext (UInt32.toNat_inj.mp isZero)
  · rintro rfl
    rfl

/-- An identifier is written without U+0000. -/
theorem holdsText_uuid (id : Uuid) : holdsText (toString id) = true := by
  rw [holdsText_iff, Uuid.toList_toString]
  intro char member
  exact (Uuid.ne_of_mem_chars member).2

theorem holdsText_nat (value : Nat) : holdsText value.repr = true := by
  rw [holdsText_iff, Nat.toList_repr]
  rintro char member rfl
  exact absurd (Nat.isDigit_of_mem_toDigits (by decide) (by decide) member) (by decide)

/-- So is the text of an instant. -/
theorem holdsText_instant (value : Instant) : holdsText (toString value) = true := by
  cases value with
  | ofNat number => exact holdsText_nat number
  | negSucc number =>
      have digits := holdsText_iff.mp (holdsText_nat (number + 1))
      change holdsText ("-" ++ (number + 1).repr) = true
      rw [holdsText_iff, String.toList_append]
      intro char member
      rcases List.mem_append.mp member with sign | digit
      · rw [List.mem_singleton.mp sign]
        decide
      · exact digits char digit

@[simp]
theorem holdsJson_uuid (id : Uuid) : holdsJson (Payload.uuid id) = true :=
  holdsText_uuid id

@[simp]
theorem holdsJson_instant (value : Instant) : holdsJson (Payload.instant value) = true :=
  holdsText_instant value

@[simp]
theorem holdsJson_number (value : Nat) : holdsJson (Payload.number value) = true :=
  rfl

@[simp]
theorem holdsJson_text (text : String) : holdsJson (Payload.text text) = holdsText text :=
  rfl

def minInstant : Int := -62135596800000000
def maxInstant : Int := 253402300799999999

/-- The bounds of a `timestamptz` column: from 4713 BC to the year 294276. -/
def minTimestamp : Int := -210866803200000000
def maxTimestamp : Int := 9224318015999999999

def holdsTimestamp (instant : Int) : Bool :=
  minTimestamp ≤ instant && instant ≤ maxTimestamp

/-- An instant that is loaded as a `datetime`, in the years from 1 to 9999. -/
def isLoaded (instant : Int) : Bool :=
  minInstant ≤ instant && instant ≤ maxInstant

def oneDay : Int := 86400000000

/-- A `datetime`: what the clock on the wall shows, and how far ahead of UTC it is, if that is
stated. -/
structure DateTime where
  wall : Int
  offset : Option Int
  named : minInstant ≤ wall ∧ wall ≤ maxInstant
  bounded : ∀ ahead ∈ offset, -oneDay < ahead ∧ ahead < oneDay

def DateTime.isAware (stated : DateTime) : Bool :=
  stated.offset.isSome

/-- The instant that an aware `datetime` names. -/
def DateTime.instant (stated : DateTime) : Int :=
  stated.wall - stated.offset.getD 0

/-- Within a day of what a `datetime` can show in UTC. -/
theorem DateTime.instant_bounds (stated : DateTime) :
    minInstant - oneDay ≤ stated.instant ∧ stated.instant ≤ maxInstant + oneDay := by
  have named := stated.named
  have bounded := stated.bounded
  rw [DateTime.instant]
  cases isOffset : stated.offset with
  | none =>
      simp only [Option.getD_none, oneDay]
      omega
  | some ahead =>
      have within := bounded ahead isOffset
      simp only [Option.getD_some]
      omega

/-- A column holds every instant that a `datetime` names. -/
theorem DateTime.holdsTimestamp_instant (stated : DateTime) :
    holdsTimestamp stated.instant = true := by
  have bounds := stated.instant_bounds
  rw [minInstant, maxInstant, oneDay] at bounds
  rw [holdsTimestamp, Bool.and_eq_true, decide_eq_true_iff, decide_eq_true_iff, minTimestamp,
    maxTimestamp]
  omega

/-! ## Rows -/

/-- `^[A-Z]{3}$`, as a check constraint. -/
def holdsCurrency (currency : String) : Bool :=
  currency.toList.length == 3 && currency.toList.all fun char => 'A' ≤ char && char ≤ 'Z'

def Product.fits (product : Product) : Bool :=
  product.category.all (holdsString 120)

def Variant.fits (variant : Variant) : Bool :=
  variant.priceAmountMinor ≤ maxBigInteger && holdsCurrency variant.currency &&
    variant.inventoryQuantity ≤ maxInteger && holdsFields variant.attributes.items

def SpendingMandate.fits (mandate : SpendingMandate) : Bool :=
  mandate.maxTotalAmountMinor ≤ maxBigInteger && holdsCurrency mandate.currency &&
    (mandate.maxQuantity.all fun quantity => 0 < quantity && quantity ≤ maxInteger) &&
    holdsTimestamp mandate.validFrom && holdsTimestamp mandate.validUntil &&
    mandate.validFrom < mandate.validUntil &&
    ((mandate.status = .revoked : Bool) == mandate.revokedAt.isSome)

/-- `kind_shape`. -/
def kindShape (fields : ConstraintFields) : Bool :=
  match fields.kind with
  | .allowedCategory => fields.attributeKey.isNone && fields.operator = .isIn
  | .requiredAttribute =>
      fields.attributeKey.any fun key => key.toList.any fun char => char != ' '

/-- `value_shape` and `operator_value_shape`. -/
def valueShape (fields : ConstraintFields) : Bool :=
  match fields.operator, fields.value with
  | .isIn, .tuple members => !members.isEmpty
  | .isIn, .single _ => false
  | .gte, .single value | .lte, .single value => value.valueType = .number
  | _, .single _ => true
  | _, .tuple _ => false

def IntentConstraint.fits (constraint : IntentConstraint) : Bool :=
  constraint.fields.attributeKey.all (holdsString 200) &&
    holdsJson constraint.fields.value.toStoredValue &&
    kindShape constraint.fields && valueShape constraint.fields

/-- The columns of `uq_intent_constraint_target`. -/
def IntentConstraint.target (constraint : IntentConstraint) :
    PersistedConstraintKind × Option String × ConstraintOperator :=
  (constraint.fields.kind, constraint.fields.attributeKey, constraint.fields.operator)

def IntentConstraintSet.fits (row : IntentConstraintSet) : Bool :=
  row.constraints.all IntentConstraint.fits &&
    decide (row.constraints.map IntentConstraint.target).Nodup

def CheckoutLine.fits (line : CheckoutLine) : Bool :=
  0 < line.quantity && line.quantity ≤ maxInteger &&
    line.unitPriceAmountMinor ≤ maxBigInteger && line.productCategory.all (holdsString 120) &&
    holdsFields line.variantAttributes.items

def CheckoutSession.fits (checkout : CheckoutSession) : Bool :=
  holdsCurrency checkout.currency && checkout.subtotalAmountMinor ≤ maxBigInteger &&
    checkout.shippingAmountMinor ≤ maxBigInteger &&
    checkout.discountAmountMinor ≤ maxBigInteger &&
    checkout.totalAmountMinor ≤ maxBigInteger &&
    (checkout.totalAmountMinor + checkout.discountAmountMinor =
      checkout.subtotalAmountMinor + checkout.shippingAmountMinor : Bool) &&
    holdsTimestamp checkout.expiresAt &&
    ((checkout.status = .cancelled : Bool) == checkout.cancelledAt.isSome) &&
    ((checkout.status = .paid : Bool) == checkout.paidAt.isSome) &&
    checkout.lines.all CheckoutLine.fits

def AuditEvent.fits (event : AuditEvent) : Bool :=
  holdsString 64 event.resourceType && holdsFields event.payload

/-- Every row is one that its columns hold. -/
def Database.fits (database : Database) : Bool :=
  database.products.rows.all Product.fits && database.variants.rows.all Variant.fits &&
    database.mandates.rows.all SpendingMandate.fits &&
    database.constraintSets.rows.all IntentConstraintSet.fits &&
    database.checkouts.rows.all CheckoutSession.fits &&
    database.auditEvents.all AuditEvent.fits

/-- What the database keeps of itself: its rows fit, and a variant is one of a product. -/
structure Database.IsSound (database : Database) : Prop where
  fits : database.fits = true
  ofProduct : ∀ variant ∈ database.variants,
    ∃ product, database.products.get? variant.productId = some product

section Written

variable {database : Database} {event : AuditEvent}

/-- With one more mandate, the database fits as that row and its event do. -/
theorem fits_mandates (fits : database.fits = true) {mandates : Table SpendingMandate}
    {row : SpendingMandate} (rows : mandates.rows = database.mandates.rows ++ [row]) :
    ({ database with
        mandates := mandates
        auditEvents := database.auditEvents ++ [event] } : Database).fits = true ↔
      row.fits = true ∧ event.fits = true := by
  simp only [Database.fits, Bool.and_eq_true] at fits
  simp only [Database.fits, rows, List.all_append, List.all_cons, List.all_nil, Bool.and_true,
    Bool.and_eq_true, fits, true_and]

theorem fits_constraintSets (fits : database.fits = true)
    {constraintSets : Table IntentConstraintSet} {row : IntentConstraintSet}
    (rows : constraintSets.rows = database.constraintSets.rows ++ [row]) :
    ({ database with
        constraintSets := constraintSets
        auditEvents := database.auditEvents ++ [event] } : Database).fits = true ↔
      row.fits = true ∧ event.fits = true := by
  simp only [Database.fits, Bool.and_eq_true] at fits
  simp only [Database.fits, rows, List.all_append, List.all_cons, List.all_nil, Bool.and_true,
    Bool.and_eq_true, fits, true_and]

theorem fits_checkouts (fits : database.fits = true) {checkouts : Table CheckoutSession}
    {row : CheckoutSession} (rows : checkouts.rows = database.checkouts.rows ++ [row]) :
    ({ database with
        checkouts := checkouts
        auditEvents := database.auditEvents ++ [event] } : Database).fits = true ↔
      row.fits = true ∧ event.fits = true := by
  simp only [Database.fits, Bool.and_eq_true] at fits
  simp only [Database.fits, rows, List.all_append, List.all_cons, List.all_nil, Bool.and_true,
    Bool.and_eq_true, fits, true_and]

theorem Database.IsSound.variant (sound : database.IsSound) {variant : Variant}
    (member : variant ∈ database.variants) : variant.fits = true := by
  have fits := sound.fits
  simp only [Database.fits, Bool.and_eq_true] at fits
  exact List.all_eq_true.mp fits.1.1.1.1.2 variant member

theorem Database.IsSound.product (sound : database.IsSound) {product : Product}
    (member : product ∈ database.products) : product.fits = true := by
  have fits := sound.fits
  simp only [Database.fits, Bool.and_eq_true] at fits
  exact List.all_eq_true.mp fits.1.1.1.1.1 product member

end Written

/-- A mandate whose row is loaded. -/
def SpendingMandate.isLoaded (mandate : SpendingMandate) : Bool :=
  Store.isLoaded mandate.validFrom && Store.isLoaded mandate.validUntil

/-! ## Calls -/

/-- How a call ends.  A refusal and an error of the storage leave the database as it was. -/
inductive Outcome (α : Type)
  | committed (value : α) (final : Database)
  | refused (failure : Failure)
  | storageError

/-- The database after a call. -/
def Outcome.after {α : Type} (before : Database) : Outcome α → Database
  | committed _ final => final
  | refused _ | storageError => before

/-- A call as the database serves it.  A mandate that the call reads has to be loaded, and what the
call writes has to fit. -/
def serve {α : Type} (read : Option SpendingMandate) (call : Session α) (database : Database) :
    Outcome α :=
  if read.any fun mandate => !mandate.isLoaded then .storageError
  else
    match call database with
    | .error (.integrityError _) => .storageError
    | .error failure => .refused failure
    | .ok (value, final) => if final.fits then .committed value final else .storageError

/-- A call ends with what it stored, or with a refusal of the application. -/
def Outcome.Settles {α : Type} (stored : α → Database → Prop) : Outcome α → Prop
  | committed value final => stored value final
  | refused _ => True
  | storageError => False

section Serve

variable {α : Type} {read : Option SpendingMandate} {call : Session α}
  {stored : α → Database → Prop} {database : Database}

/-- Where what a call commits is stored as it should be, it settles exactly if the mandate that it
reads is loaded, no refusal of it comes from the storage, and what it commits fits. -/
theorem settles_serve_iff
    (commits : ∀ value final, call database = .ok (value, final) → stored value final) :
    (serve read call database).Settles stored ↔
      (∀ mandate ∈ read, mandate.isLoaded = true) ∧
        (∀ name, call database ≠ .error (.integrityError name)) ∧
        ∀ value final, call database = .ok (value, final) → final.fits = true := by
  have isRead : (read.any fun mandate => !mandate.isLoaded) = true ↔
      ¬∀ mandate ∈ read, mandate.isLoaded = true := by
    cases read with
    | none => simp
    | some mandate => simp
  rw [serve]
  by_cases loaded : ∀ mandate ∈ read, mandate.isLoaded = true
  · rw [if_neg (mt isRead.mp (not_not.mpr loaded))]
    cases outcome : call database with
    | error failure =>
        cases failure with
        | integrityError name =>
            refine iff_of_false id ?_
            rintro ⟨_, refusals, _⟩
            exact refusals name rfl
        | notFound | conflict | valueError => exact iff_of_true trivial ⟨loaded, nofun, nofun⟩
    | ok pair =>
        obtain ⟨value, final⟩ := pair
        by_cases fits : final.fits = true
        · simp only [if_pos fits]
          refine iff_of_true (commits value final outcome) ⟨loaded, nofun, ?_⟩
          rintro _ _ ⟨⟩
          exact fits
        · simp only [if_neg fits]
          refine iff_of_false id ?_
          rintro ⟨_, _, all⟩
          exact fits (all value final rfl)
  · rw [if_pos (isRead.mpr loaded)]
    refine iff_of_false id ?_
    rintro ⟨all, _⟩
    exact loaded all

/-- Where a call leaves the catalog as it is, the database after it is sound again. -/
theorem isSound_serve (sound : database.IsSound)
    (keeps : ∀ value final, call database = .ok (value, final) →
      final.variants = database.variants ∧ final.products = database.products) :
    ((serve read call database).after database).IsSound := by
  rw [serve]
  split
  · exact sound
  · split
    · exact sound
    · exact sound
    · next value final committed =>
        split
        · next fits =>
            obtain ⟨variants, products⟩ := keeps value final committed
            constructor
            · exact fits
            · intro variant member
              change ∃ product, final.products.get? _ = some product
              rw [products]
              apply sound.ofProduct variant
              rw [← variants]
              exact member
        · exact sound

end Serve

/-- A call for a merchant goes on: the guard allows it, and the merchant is known. -/
def Entered (merchantId : Uuid) (capability : Option BenchmarkRunCapability)
    (database : Database) : Prop :=
  mutationRefusal merchantId capability database = none ∧
    ∃ merchant, database.merchants.get? merchantId = some merchant

/-- The mandate that a call reads when it goes on. -/
def mandateRead (merchantId : Uuid) (capability : Option BenchmarkRunCapability)
    (found : Option SpendingMandate) (database : Database) : Option SpendingMandate :=
  if mutationRefusal merchantId capability database = none then
    (database.merchants.get? merchantId).bind fun _ => found
  else none

theorem mem_mandateRead_iff {merchantId : Uuid} {capability : Option BenchmarkRunCapability}
    {found : Option SpendingMandate} {database : Database} {mandate : SpendingMandate} :
    mandate ∈ mandateRead merchantId capability found database ↔
      Entered merchantId capability database ∧ found = some mandate := by
  unfold mandateRead
  split
  · next allowed => simp [Entered, allowed, Option.mem_def, Option.bind_eq_some_iff]
  · next refused => simp [Entered, refused]

end AgentRank.Store
