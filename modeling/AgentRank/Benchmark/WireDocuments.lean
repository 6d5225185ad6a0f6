import AgentRank.Benchmark.Wire

/-!
# What is sent is what arrives

Every request, report and count of attempts is read as it was written.  Evidence is where no
payload of it changes on the way.  What is read is a document that its format describes, except
that a document may leave out the version it is written in.
-/

namespace AgentRank.Benchmark.Llm.Wire

open Constraints Representation Store Text

section Held

variable {fields : List (String × Json)} {name : String}

theorem documentOf_eq_ok_iff {known : List String} {payload : Json} :
    documentOf known payload = .ok fields ↔
      payload = .object fields ∧ unknownIn fields known = [] ∧ passesVersion fields = true := by
  cases payload with
  | object stated =>
      rw [documentOf]
      split
      · rename_i allKnown
        split
        · rename_i passes
          rw [Except.ok.injEq, Json.object.injEq]
          constructor
          · rintro rfl
            exact ⟨rfl, allKnown, passes⟩
          · exact fun held => held.1
        · rename_i fails
          refine iff_of_false nofun ?_
          rintro ⟨same, _, passes⟩
          cases same
          exact fails passes
      · rename_i someUnknown
        refine iff_of_false nofun ?_
        rintro ⟨same, allKnown, _⟩
        cases same
        exact someUnknown allKnown
  | null | scalar | array => exact iff_of_false nofun nofun

theorem textIn_held {text : String} (held : fields.lookup name = some (Payload.text text)) :
    textIn fields name = .ok text := by
  rw [textIn, held]
  rfl

theorem optionalTextIn_held {text : Option String}
    (held : fields.lookup name = some (Payload.optionalText text)) :
    optionalTextIn fields name = .ok text := by
  rw [optionalTextIn, held]
  cases text <;> rfl

theorem integerIn_held {value : Int} (held : fields.lookup name = some (wholeNumber value)) :
    integerIn fields name = .ok value := by
  rw [integerIn, held]
  rfl

theorem identifierIn_held {id : Uuid} (held : fields.lookup name = some (Payload.uuid id)) :
    identifierIn fields name = .ok id := by
  rw [identifierIn, textIn_held held]
  simp only [bind, Except.bind, uuidOf_toString]
  rfl

theorem optionalIdIn_held {id : Option Uuid}
    (held : fields.lookup name = some (optional id Payload.uuid)) :
    optionalIdIn fields name = .ok id := by
  rw [optionalIdIn, isAbsent, held]
  cases id with
  | none => rfl
  | some id =>
      rw [optional] at held ⊢
      rw [identifierIn_held held]
      rfl

theorem optionalIntegerIn_held {value : Option Int}
    (held : fields.lookup name = some (optional value wholeNumber)) :
    optionalIntegerIn fields name = .ok value := by
  rw [optionalIntegerIn, isAbsent, held]
  cases value with
  | none => rfl
  | some value =>
      rw [optional] at held ⊢
      rw [integerIn_held held]
      rfl

theorem optionalObjectIn_held {object : Option (List (String × Json))}
    (held : fields.lookup name = some (optional object Json.object)) :
    optionalObjectIn fields name = .ok object := by
  rw [optionalObjectIn, held]
  cases object <;> rfl

theorem readPart_held {α : Type} {part : Option α} {parts : α → List (String × Json)}
    {build : Json → Except WireError α}
    (held : fields.lookup name = some (optional part fun value => .object (parts value)))
    (isBuilt : ∀ value, build (.object (parts value)) = .ok value) :
    readPart fields name build = .ok part := by
  rw [readPart, held]
  cases part with
  | none => rfl
  | some value =>
      dsimp only [optional]
      rw [isBuilt]
      rfl

end Held

theorem selectionFrom_payload (selection : ReportedSelection) :
    selectionFrom (.object (selectionFields selection)) = .ok selection := by
  have document : documentOf ["variant_id", "quantity"] (.object (selectionFields selection)) =
      .ok (selectionFields selection) :=
    documentOf_eq_ok_iff.mpr ⟨rfl, rfl, rfl⟩
  have variant : identifierIn (selectionFields selection) "variant_id" = .ok selection.variantId :=
    identifierIn_held rfl
  have quantity : integerIn (selectionFields selection) "quantity" =
      .ok (selection.quantity : Int) :=
    integerIn_held rfl
  have positive : 0 < (selection.quantity : Int).toNat := selection.quantityPositive
  rw [selectionFrom, document]
  simp only [bind, Except.bind, variant, quantity]
  exact dif_pos positive

theorem refusalOf_value (refusal : Option CheckoutRefusal) :
    refusalOf (refusal.map CheckoutRefusal.value) = .ok refusal := by
  cases refusal with
  | none => rfl
  | some refusal => cases refusal <;> rfl

theorem checkoutFrom_payload (checkout : ReportedCheckout) :
    checkoutFrom (.object (checkoutFields checkout)) = .ok checkout := by
  have document : documentOf ["checkout_id", "refusal"] (.object (checkoutFields checkout)) =
      .ok (checkoutFields checkout) :=
    documentOf_eq_ok_iff.mpr ⟨rfl, rfl, rfl⟩
  have refusal : optionalTextIn (checkoutFields checkout) "refusal" =
      .ok (checkout.refusal.map CheckoutRefusal.value) := by
    apply optionalTextIn_held
    change some (optional checkout.refusal fun refusal => Payload.text refusal.value) = _
    cases checkout.refusal <;> rfl
  have identifier : optionalIdIn (checkoutFields checkout) "checkout_id" =
      .ok checkout.checkoutId :=
    optionalIdIn_held rfl
  rw [checkoutFrom, document]
  simp only [bind, Except.bind, refusal, identifier, refusalOf_value]
  exact dif_pos checkout.namedOrRefused

theorem paymentFrom_payload (payment : ReportedPayment) :
    paymentFrom (.object (paymentFields payment)) = .ok payment := by
  have document : documentOf ["attempt_id"] (.object (paymentFields payment)) =
      .ok (paymentFields payment) :=
    documentOf_eq_ok_iff.mpr ⟨rfl, rfl, rfl⟩
  have attempt : identifierIn (paymentFields payment) "attempt_id" = .ok payment.attemptId :=
    identifierIn_held rfl
  rw [paymentFrom, document]
  simp only [bind, Except.bind, attempt]
  rfl

theorem abstentionFrom_payload (abstention : ReportedAbstention) :
    abstentionFrom (.object (abstentionFields abstention)) = .ok abstention := by
  have document : documentOf ["code", "detail"] (.object (abstentionFields abstention)) =
      .ok (abstentionFields abstention) :=
    documentOf_eq_ok_iff.mpr ⟨rfl, rfl, rfl⟩
  have stated : textIn (abstentionFields abstention) "code" = .ok abstention.code.value :=
    textIn_held rfl
  have code : memberOf abstentionCodes AbstentionCode.value "AbstentionCode"
      abstention.code.value = .ok abstention.code := by
    cases abstention.code <;> rfl
  have detail : optionalTextIn (abstentionFields abstention) "detail" = .ok abstention.detail :=
    optionalTextIn_held rfl
  rw [abstentionFrom, document]
  simp only [bind, Except.bind, stated, code, detail]
  rfl

theorem errorFrom_payload (error : ReportedError) :
    errorFrom (.object (errorFields error)) = .ok error := by
  have document : documentOf ["detail"] (.object (errorFields error)) = .ok (errorFields error) :=
    documentOf_eq_ok_iff.mpr ⟨rfl, rfl, rfl⟩
  have detail : textIn (errorFields error) "detail" = .ok error.detail := textIn_held rfl
  rw [errorFrom, document]
  simp only [bind, Except.bind, detail]
  exact dif_pos error.detailStated

theorem executorReportFromPayload_payload (report : ExecutorReport) :
    executorReportFromPayload (executorReportPayload report) = .ok report := by
  have document : documentOf reportFields (executorReportPayload report) =
      .ok (reportParts report) :=
    documentOf_eq_ok_iff.mpr ⟨rfl, rfl, rfl⟩
  have merchant : identifierIn (reportParts report) "merchant_id" = .ok report.merchantId :=
    identifierIn_held rfl
  have selection : readPart (reportParts report) "selection" selectionFrom =
      .ok report.selection :=
    readPart_held rfl selectionFrom_payload
  have checkout : readPart (reportParts report) "checkout" checkoutFrom = .ok report.checkout :=
    readPart_held rfl checkoutFrom_payload
  have payment : readPart (reportParts report) "payment" paymentFrom = .ok report.payment :=
    readPart_held rfl paymentFrom_payload
  have abstention : readPart (reportParts report) "abstention" abstentionFrom =
      .ok report.abstention :=
    readPart_held rfl abstentionFrom_payload
  have error : readPart (reportParts report) "error" errorFrom = .ok report.error :=
    readPart_held rfl errorFrom_payload
  rw [executorReportFromPayload, document]
  simp only [bind, Except.bind, merchant, selection, checkout, payment, abstention, error]
  rfl

section Results

variable (report : ExecutorReport) (evidence : Option AgentExecutionEvidence)
  (attempts : Option Nat)

theorem documentOf_result :
    documentOf resultFields (workerResultPayload report evidence attempts) =
      .ok (resultParts report evidence attempts) := by
  refine documentOf_eq_ok_iff.mpr ⟨rfl, ?_, ?_⟩
  · cases evidence <;> cases attempts <;> rfl
  · rfl

theorem lookup_evidence :
    (resultParts report evidence attempts).lookup "agent_evidence" =
      evidence.map AgentExecutionEvidence.toPayload := by
  cases evidence <;> cases attempts <;> rfl

theorem lookup_attempts :
    (resultParts report evidence attempts).lookup "provider_attempts" =
      attempts.map Payload.number := by
  cases evidence <;> cases attempts <;> rfl

theorem reportFromPayload_result :
    reportFromPayload (workerResultPayload report evidence attempts) = .ok report := by
  have observed : objectIn (resultParts report evidence attempts) "observed" =
      .ok (executorReportPayload report) := by
    cases evidence <;> cases attempts <;> rfl
  rw [reportFromPayload, documentOf_result]
  simp only [bind, Except.bind, observed]
  exact executorReportFromPayload_payload report

/-- An absent count is read as absent, and zero as zero. -/
theorem providerAttemptsFromPayload_result :
    providerAttemptsFromPayload (workerResultPayload report evidence attempts) = .ok attempts := by
  rw [providerAttemptsFromPayload, documentOf_result]
  simp only [bind, Except.bind, lookup_attempts]
  cases attempts with
  | none => rfl
  | some count =>
      have whole : ((count : ℚ).den = 1 ∧ 0 ≤ (count : ℚ).num) := by
        simp
      simp only [Option.map_some, Payload.number, if_pos whole]
      simp [pure, Except.pure]

theorem agentEvidenceFromPayload_none :
    agentEvidenceFromPayload (workerResultPayload report none attempts) = .ok none := by
  rw [agentEvidenceFromPayload, documentOf_result]
  simp only [bind, Except.bind, lookup_evidence]
  rfl

theorem agentEvidenceFromPayload_some_iff {evidence read : AgentExecutionEvidence} :
    agentEvidenceFromPayload (workerResultPayload report (some evidence) attempts) =
        .ok (some read) ↔
      AgentExecutionEvidence.fromPayload evidence.toPayload = .ok read := by
  rw [agentEvidenceFromPayload, documentOf_result]
  simp only [bind, Except.bind, lookup_evidence, Option.map_some]
  change (do
    let read ← constructed (AgentExecutionEvidence.fromPayload evidence.toPayload)
    return some read) = Except.ok (some read) ↔ _
  cases AgentExecutionEvidence.fromPayload evidence.toPayload with
  | error raised => exact iff_of_false (by rintro ⟨⟩) (by rintro ⟨⟩)
  | ok found =>
      change Except.ok (some found) = Except.ok (some read) ↔ _
      rw [Except.ok.injEq, Option.some.injEq, Except.ok.injEq]

end Results

/-- A request that its constructor accepts, and whose objects hold no key twice. -/
structure ValidRequest where
  request : MissionRequest
  accepted : request.check = .ok ()
  configurationDistinct : ∀ fields, request.agentConfiguration = some fields →
    DistinctKeys (.object fields)
  informationDistinct : ∀ fields, request.merchantInformation = some fields →
    DistinctKeys (.object fields)
  discoveryDistinct : ∀ fields, request.discovery = some fields → DistinctKeys (.object fields)

theorem fromPayload_request (valid : ValidRequest) :
    MissionRequest.fromPayload valid.request.toPayload = .ok valid.request := by
  obtain ⟨request, accepted, _, _, _⟩ := valid
  have document : documentOf requestFields request.toPayload = .ok request.parts :=
    documentOf_eq_ok_iff.mpr ⟨rfl, rfl, rfl⟩
  have brief : objectIn request.parts "brief" = .ok request.brief.toPayload := rfl
  have briefRead := AgentRank.Benchmark.fromPayload_toPayload request.brief
  have merchant : identifierIn request.parts "merchant_id" = .ok request.merchantId :=
    identifierIn_held rfl
  have baseUrl : textIn request.parts "base_url" = .ok request.baseUrl := textIn_held rfl
  have token : textIn request.parts "token" = .ok request.token := textIn_held rfl
  have strategy : textIn request.parts "strategy" = .ok request.strategy := textIn_held rfl
  have mandate : optionalIdIn request.parts "mandate_id" = .ok request.mandateId :=
    optionalIdIn_held rfl
  have configuration : optionalObjectIn request.parts "agent_configuration" =
      .ok request.agentConfiguration :=
    optionalObjectIn_held rfl
  have information : optionalObjectIn request.parts "merchant_information" =
      .ok request.merchantInformation :=
    optionalObjectIn_held rfl
  have discovery : optionalObjectIn request.parts "discovery" = .ok request.discovery :=
    optionalObjectIn_held rfl
  have grant : optionalIntegerIn request.parts "provider_request_grant" =
      .ok request.providerRequestGrant :=
    optionalIntegerIn_held rfl
  rw [MissionRequest.fromPayload, document]
  simp only [bind, Except.bind, brief, constructed, briefRead, Except.mapError, merchant, baseUrl,
    token, strategy, mandate, configuration, information, discovery, grant, accepted]
  rfl

end AgentRank.Benchmark.Llm.Wire
