import AgentRank.Benchmark.WireDocuments

/-!
# Which reports are accepted

A document is read as a report exactly where it states that report: it has no field beside those
of a report, each of its parts is absent or stated in full, and the report is one that the
constructors of its parts build.
-/

namespace AgentRank.Benchmark.Llm.Wire

open Constraints Relational Store Text

/-! ## What a document states -/

section Stated

variable (fields : List (String × Json)) (name : String)

def StatesText (text : String) : Prop :=
  fields.lookup name = some (Payload.text text)

def StatesIdentifier (id : Uuid) : Prop :=
  ∃ text, StatesText fields name text ∧ uuidOf text = some id

/-- A field that is absent, or that states a value. -/
def StatesOptional {α : Type} (states : α → Prop) : Option α → Prop
  | none => isAbsent fields name = true
  | some value => states value

/-- A field that is an object which states a value. -/
def StatesPart {α : Type} (states : List (String × Json) → α → Prop) (value : α) : Prop :=
  ∃ inner, fields.lookup name = some (.object inner) ∧ states inner value

variable {fields : List (String × Json)} {name : String}

theorem textIn_eq_ok_iff {text : String} :
    textIn fields name = .ok text ↔ StatesText fields name text := by
  rw [textIn, StatesText]
  split
  · rename_i stated found
    rw [found, Except.ok.injEq, Option.some.injEq, Payload.text, Json.scalar.injEq,
      ScalarValue.string.injEq]
  · rename_i notText
    constructor
    · intro isOk
      cases isOk
    · intro found
      exact absurd found (notText text)

theorem integerIn_eq_ok_iff {value : Int} :
    integerIn fields name = .ok value ↔ fields.lookup name = some (wholeNumber value) := by
  constructor
  · intro isOk
    rw [integerIn] at isOk
    split at isOk
    · rename_i stated found
      split at isOk
      · rename_i isWhole
        cases isOk
        have same : stated = (stated.num : ℚ) := (Rat.den_eq_one_iff stated).mp isWhole |>.symm
        rw [found, wholeNumber, ← same]
      · cases isOk
    · cases isOk
  · exact integerIn_held

theorem identifierIn_eq_ok_iff {id : Uuid} :
    identifierIn fields name = .ok id ↔ StatesIdentifier fields name id := by
  rw [identifierIn, except_bind_eq_ok_iff]
  refine exists_congr fun text => and_congr textIn_eq_ok_iff ?_
  split
  · rename_i found foundEq
    rw [foundEq, Option.some.injEq]
    change Except.ok found = Except.ok id ↔ _
    rw [Except.ok.injEq]
  · rename_i notId
    rw [notId]
    exact iff_of_false (by rintro ⟨⟩) (by rintro ⟨⟩)

theorem isAbsent_of_text {text : String} (stated : StatesText fields name text) :
    isAbsent fields name = false := by
  rw [isAbsent, stated]
  rfl

theorem optionalTextIn_eq_ok_iff {text : Option String} :
    optionalTextIn fields name = .ok text ↔
      StatesOptional fields name (StatesText fields name) text := by
  rw [optionalTextIn]
  cases text with
  | none =>
      rw [StatesOptional, isAbsent]
      split <;> rename_i found <;> simp [found, violation]
  | some text =>
      rw [StatesOptional]
      constructor
      · intro isOk
        split at isOk
        · cases isOk
        · cases isOk
        · rename_i found
          cases isOk
          exact found
        · cases isOk
      · intro stated
        rw [StatesText] at stated
        rw [stated]
        rfl

theorem optionalIdIn_eq_ok_iff {id : Option Uuid} :
    optionalIdIn fields name = .ok id ↔
      StatesOptional fields name (StatesIdentifier fields name) id := by
  rw [optionalIdIn]
  split
  · rename_i absent
    cases id with
    | none => exact iff_of_true rfl absent
    | some id =>
        refine iff_of_false (by rintro ⟨⟩) ?_
        rintro ⟨text, stated, _⟩
        rw [isAbsent_of_text stated] at absent
        cases absent
  · rename_i notAbsent
    rw [except_bind_eq_ok_iff]
    cases id with
    | none =>
        refine iff_of_false ?_ notAbsent
        rintro ⟨_, _, isOk⟩
        cases isOk
    | some id =>
        rw [StatesOptional, ← identifierIn_eq_ok_iff]
        constructor
        · rintro ⟨found, isFound, isOk⟩
          cases isOk
          exact isFound
        · intro isFound
          exact ⟨id, isFound, rfl⟩

theorem readPart_eq_ok_iff {α : Type} {build : Json → Except WireError α}
    {states : List (String × Json) → α → Prop}
    (built : ∀ inner value, build (.object inner) = .ok value ↔ states inner value)
    {part : Option α} :
    readPart fields name build = .ok part ↔
      StatesOptional fields name (StatesPart fields name states) part := by
  rw [readPart]
  cases part with
  | none =>
      rw [StatesOptional, isAbsent]
      split
      · rename_i found
        simp [found]
      · rename_i found
        simp [found]
      · rename_i inner found
        rw [found, except_bind_eq_ok_iff]
        refine iff_of_false ?_ (by rintro ⟨⟩)
        rintro ⟨_, _, isOk⟩
        cases isOk
      · rename_i other _ notObject found
        rw [found]
        cases other with
        | null => exact absurd rfl ‹_›
        | scalar | array | object => exact iff_of_false (by rintro ⟨⟩) (by rintro ⟨⟩)
  | some value =>
      rw [StatesOptional, StatesPart]
      split
      · rename_i found
        simp [found]
      · rename_i found
        simp [found]
      · rename_i inner found
        rw [found, except_bind_eq_ok_iff]
        constructor
        · rintro ⟨read, isRead, isOk⟩
          cases isOk
          exact ⟨inner, rfl, (built inner value).mp isRead⟩
        · rintro ⟨stated, same, isStated⟩
          rw [Option.some.injEq, Json.object.injEq] at same
          rw [← same] at isStated
          exact ⟨value, (built inner value).mpr isStated, rfl⟩
      · rename_i notNull notObject found
        refine iff_of_false (by rintro ⟨⟩) ?_
        rintro ⟨inner, isObject, _⟩
        rw [found, Option.some.injEq] at isObject
        exact notObject inner isObject

end Stated

/-- A member is named by its value. -/
theorem memberOf_eq_ok {α : Type} {members : List α} {value : α → String}
    {enumeration stated : String} {member : α}
    (found : memberOf members value enumeration stated = .ok member) : value member = stated := by
  rw [memberOf] at found
  split at found
  · rename_i other isFound
    cases found
    have named := List.find?_some isFound
    exact of_decide_eq_true named
  · cases found

/-! ## Reports -/

section Reports

variable {fields : List (String × Json)}

/-- A document that may have no version passes every check of it. -/
theorem passesVersion_of_known {known : List String} (allKnown : unknownIn fields known = [])
    (noVersion : "protocol" ∉ known) : passesVersion fields = true := by
  have absent : fields.lookup "protocol" = none := by
    rw [List.lookup_eq_none_iff]
    intro field member
    by_contra same
    have named : field.1 = "protocol" := (not_not.mp (bne_iff_ne.not.mp same)).symm
    have unknown : field.1 ∈ unknownIn fields known := by
      rw [unknownIn, List.mem_filter, named, Bool.not_eq_true', List.contains_eq_mem]
      exact ⟨named ▸ List.mem_map_of_mem member, decide_eq_false noVersion⟩
    rw [allKnown] at unknown
    cases unknown
  rw [passesVersion, absent]

theorem documentOf_object_eq_ok_iff (known : List String) (noVersion : "protocol" ∉ known)
    {document : List (String × Json)} :
    documentOf known (.object fields) = .ok document ↔
      document = fields ∧ unknownIn fields known = [] := by
  rw [documentOf_eq_ok_iff, Json.object.injEq]
  constructor
  · rintro ⟨rfl, allKnown, _⟩
    exact ⟨rfl, allKnown⟩
  · rintro ⟨rfl, allKnown⟩
    exact ⟨rfl, allKnown, passesVersion_of_known allKnown noVersion⟩

variable (fields)

structure StatesSelection (selection : ReportedSelection) : Prop where
  known : unknownIn fields ["variant_id", "quantity"] = []
  variant : StatesIdentifier fields "variant_id" selection.variantId
  quantity : fields.lookup "quantity" = some (wholeNumber selection.quantity)

structure StatesCheckout (checkout : ReportedCheckout) : Prop where
  known : unknownIn fields ["checkout_id", "refusal"] = []
  quote : StatesOptional fields "checkout_id" (StatesIdentifier fields "checkout_id")
    checkout.checkoutId
  refusal : StatesOptional fields "refusal" (fun refusal : CheckoutRefusal =>
    StatesText fields "refusal" refusal.value) checkout.refusal

structure StatesPayment (payment : ReportedPayment) : Prop where
  known : unknownIn fields ["attempt_id"] = []
  attempt : StatesIdentifier fields "attempt_id" payment.attemptId

structure StatesAbstention (abstention : ReportedAbstention) : Prop where
  known : unknownIn fields ["code", "detail"] = []
  code : StatesText fields "code" abstention.code.value
  detail : StatesOptional fields "detail" (StatesText fields "detail") abstention.detail

structure StatesError (error : ReportedError) : Prop where
  known : unknownIn fields ["detail"] = []
  detail : StatesText fields "detail" error.detail

/-- A document states a report, part by part. -/
structure StatesReport (report : ExecutorReport) : Prop where
  known : unknownIn fields reportFields = []
  merchant : StatesIdentifier fields "merchant_id" report.merchantId
  selection : StatesOptional fields "selection" (StatesPart fields "selection" StatesSelection)
    report.selection
  checkout : StatesOptional fields "checkout" (StatesPart fields "checkout" StatesCheckout)
    report.checkout
  payment : StatesOptional fields "payment" (StatesPart fields "payment" StatesPayment)
    report.payment
  abstention : StatesOptional fields "abstention"
    (StatesPart fields "abstention" StatesAbstention) report.abstention
  error : StatesOptional fields "error" (StatesPart fields "error" StatesError) report.error

variable {fields}

theorem selectionFrom_eq_ok_iff {selection : ReportedSelection} :
    selectionFrom (.object fields) = .ok selection ↔ StatesSelection fields selection := by
  have document := @documentOf_object_eq_ok_iff fields ["variant_id", "quantity"] (by decide)
  rw [selectionFrom]
  simp only [except_bind_eq_ok_iff, document, identifierIn_eq_ok_iff, integerIn_eq_ok_iff]
  constructor
  · rintro ⟨_, ⟨rfl, known⟩, id, variant, quantity, isStated, built⟩
    split at built
    · rename_i positive
      cases built
      have natural : ((quantity.toNat : Nat) : Int) = quantity := by omega
      refine ⟨known, variant, ?_⟩
      change _ = some (wholeNumber (quantity.toNat : Nat))
      rw [natural, isStated]
    · cases built
  · rintro ⟨known, variant, quantity⟩
    refine ⟨fields, ⟨rfl, known⟩, selection.variantId, variant, selection.quantity, quantity, ?_⟩
    exact dif_pos selection.quantityPositive

/-- The refusal that a text names. -/
theorem refusalOf_eq_ok_iff {stated : Option String} {refusal : Option CheckoutRefusal} :
    refusalOf stated = .ok refusal ↔ stated = refusal.map CheckoutRefusal.value := by
  constructor
  · intro isOk
    cases stated with
    | none =>
        cases isOk
        rfl
    | some text =>
        rw [refusalOf, except_bind_eq_ok_iff] at isOk
        obtain ⟨member, found, isOk⟩ := isOk
        cases isOk
        exact congrArg some (memberOf_eq_ok found).symm
  · rintro rfl
    exact refusalOf_value refusal

theorem checkoutFrom_eq_ok_iff {checkout : ReportedCheckout} :
    checkoutFrom (.object fields) = .ok checkout ↔ StatesCheckout fields checkout := by
  have document := @documentOf_object_eq_ok_iff fields ["checkout_id", "refusal"] (by decide)
  have refusals : ∀ refusal : Option CheckoutRefusal,
      StatesOptional fields "refusal" (StatesText fields "refusal")
          (refusal.map CheckoutRefusal.value) ↔
        StatesOptional fields "refusal" (fun refusal : CheckoutRefusal =>
          StatesText fields "refusal" refusal.value) refusal := by
    intro refusal
    cases refusal <;> exact Iff.rfl
  rw [checkoutFrom]
  simp only [except_bind_eq_ok_iff, document, optionalTextIn_eq_ok_iff, optionalIdIn_eq_ok_iff,
    refusalOf_eq_ok_iff]
  constructor
  · rintro ⟨_, ⟨rfl, known⟩, _, stated, id, quote, refusal, rfl, built⟩
    split at built
    · cases built
      exact ⟨known, quote, (refusals refusal).mp stated⟩
    · cases built
  · rintro ⟨known, quote, refusal⟩
    refine ⟨fields, ⟨rfl, known⟩, _, (refusals checkout.refusal).mpr refusal, checkout.checkoutId,
      quote, checkout.refusal, rfl, ?_⟩
    exact dif_pos checkout.namedOrRefused

theorem paymentFrom_eq_ok_iff {payment : ReportedPayment} :
    paymentFrom (.object fields) = .ok payment ↔ StatesPayment fields payment := by
  have document := @documentOf_object_eq_ok_iff fields ["attempt_id"] (by decide)
  rw [paymentFrom]
  simp only [except_bind_eq_ok_iff, document, identifierIn_eq_ok_iff]
  constructor
  · rintro ⟨_, ⟨rfl, known⟩, id, attempt, built⟩
    cases built
    exact ⟨known, attempt⟩
  · rintro ⟨known, attempt⟩
    exact ⟨fields, ⟨rfl, known⟩, payment.attemptId, attempt, rfl⟩

theorem abstentionFrom_eq_ok_iff {abstention : ReportedAbstention} :
    abstentionFrom (.object fields) = .ok abstention ↔ StatesAbstention fields abstention := by
  have document := @documentOf_object_eq_ok_iff fields ["code", "detail"] (by decide)
  rw [abstentionFrom]
  simp only [except_bind_eq_ok_iff, document, textIn_eq_ok_iff, optionalTextIn_eq_ok_iff]
  constructor
  · rintro ⟨_, ⟨rfl, known⟩, stated, code, member, found, detail, isDetail, built⟩
    cases built
    rw [← memberOf_eq_ok found] at code
    exact ⟨known, code, isDetail⟩
  · rintro ⟨known, code, detail⟩
    have found : memberOf abstentionCodes AbstentionCode.value "AbstentionCode"
        abstention.code.value = .ok abstention.code := by
      cases abstention.code <;> rfl
    exact ⟨fields, ⟨rfl, known⟩, _, code, _, found, _, detail, rfl⟩

theorem errorFrom_eq_ok_iff {error : ReportedError} :
    errorFrom (.object fields) = .ok error ↔ StatesError fields error := by
  have document := @documentOf_object_eq_ok_iff fields ["detail"] (by decide)
  rw [errorFrom]
  simp only [except_bind_eq_ok_iff, document, textIn_eq_ok_iff]
  constructor
  · rintro ⟨_, ⟨rfl, known⟩, text, detail, built⟩
    split at built
    · cases built
      exact ⟨known, detail⟩
    · cases built
  · rintro ⟨known, detail⟩
    exact ⟨fields, ⟨rfl, known⟩, error.detail, detail, dif_pos error.detailStated⟩

/-- A document is read as a report exactly where it states that report. -/
theorem executorReportFromPayload_eq_ok_iff {report : ExecutorReport} :
    executorReportFromPayload (.object fields) = .ok report ↔ StatesReport fields report := by
  have document := @documentOf_object_eq_ok_iff fields reportFields (by decide)
  rw [executorReportFromPayload]
  simp only [except_bind_eq_ok_iff, document, identifierIn_eq_ok_iff,
    readPart_eq_ok_iff fun _ _ => selectionFrom_eq_ok_iff,
    readPart_eq_ok_iff fun _ _ => checkoutFrom_eq_ok_iff,
    readPart_eq_ok_iff fun _ _ => paymentFrom_eq_ok_iff,
    readPart_eq_ok_iff fun _ _ => abstentionFrom_eq_ok_iff,
    readPart_eq_ok_iff fun _ _ => errorFrom_eq_ok_iff]
  constructor
  · rintro ⟨_, ⟨rfl, known⟩, _, merchant, _, selection, _, checkout, _, payment, _, abstention, _,
      error, built⟩
    cases built
    exact ⟨known, merchant, selection, checkout, payment, abstention, error⟩
  · rintro ⟨known, merchant, selection, checkout, payment, abstention, error⟩
    exact ⟨fields, ⟨rfl, known⟩, _, merchant, _, selection, _, checkout, _, payment, _, abstention,
      _, error, rfl⟩

end Reports

end AgentRank.Benchmark.Llm.Wire
