import AgentRank.Benchmark.LlmTools

/-!
# Which calls of a model are answered

A call is answered exactly when its arguments, and the merchant's answer to it, are of the shapes
that `_tool` and its two clauses reckon with.  What is answered and is not what the tool asks for
is answered with an error.
-/

namespace AgentRank.Benchmark.Llm

open Commerce Constraints Store Text

/-- One of the two clauses catches it. -/
def isCaught : ToolRaised → Bool
  | .keyError | .valueError | .validationError | .agentRank _ => true
  | .typeError | .attributeError | .recursionError => false

/-- Nothing is raised but what is caught. -/
def RaisesCaught {α : Type} (outcome : Except ToolRaised α) : Prop :=
  ∀ raised, outcome = .error raised → isCaught raised = true

section Caught

variable {α β : Type}

@[simp]
theorem raisesCaught_ok (value : α) : RaisesCaught (.ok value : Except ToolRaised α) := by
  rintro raised ⟨⟩

@[simp]
theorem raisesCaught_error_iff {raised : ToolRaised} :
    RaisesCaught (.error raised : Except ToolRaised α) ↔ isCaught raised = true := by
  constructor
  · intro caught
    exact caught raised rfl
  · rintro isCaught _ ⟨⟩
    exact isCaught

/-- A step after another one raises what either raises. -/
theorem raisesCaught_bind_iff {first : Except ToolRaised α} {next : α → Except ToolRaised β} :
    RaisesCaught (first >>= next) ↔
      RaisesCaught first ∧ ∀ value, first = .ok value → RaisesCaught (next value) := by
  cases first with
  | error raised => simp [bind, Except.bind]
  | ok value => simp [bind, Except.bind]

theorem caught_isOk_iff {outcome : Except ToolRaised ToolAnswer} :
    (∃ answer, caught outcome = .ok answer) ↔ RaisesCaught outcome := by
  cases outcome with
  | ok answer => simp [caught]
  | error raised => cases raised <;> simp [caught, isCaught]

/-- What a merchant refuses is caught. -/
theorem raisesCaught_result (answer : SurfaceAnswer α) : RaisesCaught answer.result := by
  cases answer <;> simp [SurfaceAnswer.result, isCaught]

theorem result_eq_ok_iff {answer : SurfaceAnswer α} {value : α} :
    answer.result = .ok value ↔ answer = .given value := by
  cases answer <;> simp [SurfaceAnswer.result]

end Caught

/-! ## What projection raises -/

variable {view : BuyerDiscoveryView}

theorem present_error {projected : List (String × Json)} {raised : ReadError}
    (isRaised : present view projected = .error raised) :
    raised = .typeError := by
  unfold present at isRaised
  split at isRaised
  · rename_i attributes sku _ _
    unfold factsUnder at isRaised
    split at isRaised
    · simp only [bind, Except.bind] at isRaised
      split at isRaised <;> cases isRaised
    · split at isRaised
      · simp only [bind, Except.bind] at isRaised
        split at isRaised <;> cases isRaised
      · split at isRaised
        · simp only [bind, Except.bind] at isRaised
          split at isRaised <;> cases isRaised
        · cases isRaised
          rfl
  · cases isRaised

mutual

/-- A projection fails only on a value that has no hash. -/
theorem project_error {view : BuyerDiscoveryView} {raised : ReadError} :
    (value : Json) → project view value = .error raised → raised = .typeError
  | .null, isRaised => by cases isRaised
  | .scalar _, isRaised => by cases isRaised
  | .array items, isRaised => by
      simp only [project, bind, Except.bind] at isRaised
      split at isRaised
      · rename_i inner
        cases isRaised
        exact projectItems_error items inner
      · cases isRaised
  | .object fields, isRaised => by
      simp only [project, bind, Except.bind] at isRaised
      split at isRaised
      · rename_i inner
        cases isRaised
        exact projectFields_error fields inner
      · split at isRaised
        · rename_i inner
          cases isRaised
          exact present_error inner
        · cases isRaised

theorem projectItems_error {view : BuyerDiscoveryView} {raised : ReadError} :
    (items : List Json) → projectItems view items = .error raised → raised = .typeError
  | [], isRaised => by cases isRaised
  | item :: rest, isRaised => by
      simp only [projectItems, bind, Except.bind] at isRaised
      split at isRaised
      · rename_i inner
        cases isRaised
        exact project_error item inner
      · split at isRaised
        · rename_i inner
          cases isRaised
          exact projectItems_error rest inner
        · cases isRaised

theorem projectFields_error {view : BuyerDiscoveryView} {raised : ReadError} :
    (fields : List (String × Json)) → projectFields view fields = .error raised →
      raised = .typeError
  | [], isRaised => by cases isRaised
  | (_, value) :: rest, isRaised => by
      simp only [projectFields, bind, Except.bind] at isRaised
      split at isRaised
      · rename_i inner
        cases isRaised
        exact project_error value inner
      · split at isRaised
        · rename_i inner
          cases isRaised
          exact projectFields_error rest inner
        · cases isRaised

end

theorem raisesCaught_discover_iff {document : Json} :
    RaisesCaught (shown (discover view document)) ↔ Readable view document := by
  rw [← project_isOk_iff]
  cases projectedEq : project view document with
  | ok projected => simp [shown, discover, projectedEq, Except.mapError]
  | error raised =>
      cases project_error document projectedEq
      simp [shown, discover, projectedEq, Except.mapError, ReadError.raised, isCaught]

/-- An object stays one under a view. -/
theorem object_of_discover {fields : List (String × Json)} {document : Json}
    (isShown : shown (discover view (.object fields)) = .ok document) :
    ∃ projected, document = .object projected := by
  cases projectedEq : project view (.object fields) with
  | error raised => simp [shown, discover, projectedEq, Except.mapError] at isShown
  | ok projected =>
      simp only [shown, discover, projectedEq, Except.mapError, Except.ok.injEq] at isShown
      subst isShown
      simp only [project, bind, Except.bind] at projectedEq
      split at projectedEq
      · cases projectedEq
      · split at projectedEq
        · cases projectedEq
        · cases projectedEq
          exact ⟨_, rfl⟩

/-! ## The branches -/

section Branches

variable {view : BuyerDiscoveryView} {surface : BuyerSurface} {arguments : List (String × Json)}

theorem raisesCaught_iterationOf_iff {stated : Json} :
    RaisesCaught ((iterationOf stated).mapError ReadError.raised) ↔ isIterable stated = true := by
  cases stated with
  | scalar value => cases value <;> simp [iterationOf, Except.mapError, ReadError.raised, isCaught,
      isIterable]
  | null | array | object =>
      simp [iterationOf, Except.mapError, ReadError.raised, isCaught, isIterable]

theorem raisesCaught_abstainTool : RaisesCaught (abstainTool arguments) := by
  unfold abstainTool
  split
  · split
    · exact raisesCaught_error_iff.mpr rfl
    · exact raisesCaught_ok _
  · exact raisesCaught_error_iff.mpr rfl

variable [ArgumentReading]

theorem raisesCaught_identifierIn (name : String) : RaisesCaught (identifierIn arguments name) := by
  unfold identifierIn
  split
  · exact raisesCaught_error_iff.mpr rfl
  · split
    · exact raisesCaught_error_iff.mpr rfl
    · exact raisesCaught_ok _

theorem raisesCaught_searchTool_iff :
    RaisesCaught (searchTool view surface arguments) ↔
      arguments.lookup "limit" = none ∧
        ∀ stated answer, ArgumentReading.search arguments = some stated →
          surface.searchProducts stated.request = .given answer →
            Readable view (.object answer.fields) := by
  unfold searchTool
  cases limitEq : arguments.lookup "limit" with
  | some limit => simp [isCaught]
  | none =>
      cases statedEq : ArgumentReading.search arguments with
      | none => simp [isCaught]
      | some stated =>
          have truncatedIsOk : ∀ (document : Json) (answer : SearchAnswer),
              shown (discover view (.object answer.fields)) = .ok document →
                RaisesCaught (shown (withTruncated document (answer.count == answer.limit))) := by
            intro document answer isShown
            obtain ⟨projected, rfl⟩ := object_of_discover isShown
            exact raisesCaught_ok _
          simp only [Option.isSome_none, Bool.false_eq_true, if_false, raisesCaught_bind_iff,
            raisesCaught_result, true_and, result_eq_ok_iff, raisesCaught_discover_iff]
          constructor
          · rintro holds _ answer ⟨⟩ isGiven
            exact (holds answer isGiven).1
          · intro holds answer isGiven
            refine ⟨holds stated answer rfl isGiven, fun document isShown => ?_⟩
            exact ⟨truncatedIsOk document answer isShown, fun _ _ => raisesCaught_ok _⟩

theorem raisesCaught_productTool_iff :
    RaisesCaught (productTool view surface arguments) ↔
      ∀ id document, identifierIn arguments "product_id" = .ok id →
        surface.getProduct id = .given document → Readable view document := by
  simp only [productTool, raisesCaught_bind_iff, raisesCaught_identifierIn, raisesCaught_result,
    true_and, result_eq_ok_iff, raisesCaught_discover_iff]
  constructor
  · intro holds id document isId isGiven
    exact (holds id isId document isGiven).1
  · intro holds id isId document isGiven
    exact ⟨holds id document isId isGiven, fun _ _ => raisesCaught_ok _⟩

theorem raisesCaught_checkoutTool (operation : Uuid → SurfaceAnswer Json) :
    RaisesCaught (checkoutTool operation arguments) := by
  simp only [checkoutTool, raisesCaught_bind_iff, raisesCaught_identifierIn, raisesCaught_result,
    true_and]
  exact fun _ _ _ _ => raisesCaught_ok _

theorem raisesCaught_completeTool : RaisesCaught (completeTool surface arguments) := by
  simp only [completeTool, raisesCaught_bind_iff, raisesCaught_identifierIn, raisesCaught_result,
    true_and]
  exact fun _ _ _ _ => raisesCaught_ok _

variable [ItemReading]

omit [ArgumentReading] in
theorem raisesCaught_itemsIn_iff :
    RaisesCaught (itemsIn arguments) ↔
      ∀ stated, arguments.lookup "items" = some stated → isIterable stated = true := by
  unfold itemsIn
  cases statedEq : arguments.lookup "items" with
  | none => simp [isCaught]
  | some stated =>
      simp only [raisesCaught_bind_iff, raisesCaught_iterationOf_iff, Option.some.injEq,
        forall_eq']
      refine and_iff_left fun items _ => ?_
      split
      · exact raisesCaught_error_iff.mpr rfl
      · exact raisesCaught_ok _

variable {mandateId : Uuid}

omit [ArgumentReading] in
theorem raisesCaught_createTool_iff :
    RaisesCaught (createTool mandateId surface arguments) ↔
      ∀ stated, arguments.lookup "items" = some stated → isIterable stated = true := by
  rw [createTool, raisesCaught_bind_iff, raisesCaught_itemsIn_iff]
  refine and_iff_left fun items _ => ?_
  split
  · rw [raisesCaught_bind_iff]
    exact ⟨raisesCaught_result _, fun _ _ => raisesCaught_ok _⟩
  · exact raisesCaught_error_iff.mpr rfl

/-- A branch raises nothing that escapes exactly where its arguments are handled. -/
theorem raisesCaught_dispatchTool_iff {name : String} :
    RaisesCaught (dispatchTool view mandateId surface name arguments) ↔
      HandledArguments view surface name arguments := by
  unfold dispatchTool HandledArguments
  split_ifs
  · exact raisesCaught_searchTool_iff
  · exact raisesCaught_productTool_iff
  · exact raisesCaught_createTool_iff
  · exact iff_of_true (raisesCaught_checkoutTool _) trivial
  · exact iff_of_true (raisesCaught_checkoutTool _) trivial
  · exact iff_of_true raisesCaught_completeTool trivial
  · exact iff_of_true raisesCaught_abstainTool trivial
  · exact iff_of_true (raisesCaught_ok _) trivial

/-- Exactly the calls that are handled are answered. -/
theorem tool_isOk_iff [NestingLimit] {call : ProviderToolCall} :
    (∃ answer, tool view mandateId surface call = .ok answer) ↔ Handled view surface call := by
  unfold tool Handled
  cases exceededEq : NestingLimit.exceeded call.arguments with
  | true => simp
  | false =>
      rw [if_neg (by decide)]
      cases loadsEq : Representation.loads call.arguments with
      | error raised => cases raised <;> simp
      | ok document =>
          cases document with
          | object arguments =>
              simp only [caught_isOk_iff, raisesCaught_dispatchTool_iff]
              simp
          | null | scalar | array => simp

/-- A branch whose arguments are not what its tool asks for raises, or says that there is no
such tool. -/
theorem dispatchTool_of_malformed (view : BuyerDiscoveryView) (surface : BuyerSurface)
    (mandateId : Uuid) {name : String}
    (malformed : ¬WellFormedArguments name arguments) :
    (∃ raised, dispatchTool view mandateId surface name arguments = .error raised) ∨
      dispatchTool view mandateId surface name arguments =
        .ok (errorAnswer s!"unknown tool: {name}") := by
  have noIdentifier : ∀ field, (¬∃ id, identifierIn arguments field = .ok id) →
      ∃ raised, identifierIn arguments field = .error raised := by
    intro field none
    cases identifierEq : identifierIn arguments field with
    | error raised => exact ⟨raised, rfl⟩
    | ok id => exact absurd ⟨id, identifierEq⟩ none
  unfold WellFormedArguments at malformed
  unfold dispatchTool
  split_ifs at malformed ⊢
  · left
    have none : ArgumentReading.search arguments = none := by simpa using malformed
    rw [searchTool]
    split
    · exact ⟨_, rfl⟩
    · rw [none]
      exact ⟨_, rfl⟩
  · obtain ⟨raised, isRaised⟩ := noIdentifier _ malformed
    exact Or.inl ⟨raised, by rw [productTool, isRaised]; rfl⟩
  · left
    cases itemsEq : itemsIn arguments with
    | error raised => exact ⟨raised, by rw [createTool, itemsEq]; rfl⟩
    | ok items =>
        have notQuotable : ¬isQuotable items = true := fun quotable =>
          malformed ⟨items, itemsEq, quotable⟩
        refine ⟨.validationError, ?_⟩
        rw [createTool, itemsEq]
        simp only [bind, Except.bind, dif_neg notQuotable]
  · obtain ⟨raised, isRaised⟩ := noIdentifier _ malformed
    exact Or.inl ⟨raised, by rw [checkoutTool, isRaised]; rfl⟩
  · obtain ⟨raised, isRaised⟩ := noIdentifier _ malformed
    exact Or.inl ⟨raised, by rw [checkoutTool, isRaised]; rfl⟩
  · obtain ⟨raised, isRaised⟩ := noIdentifier _ malformed
    exact Or.inl ⟨raised, by rw [completeTool, isRaised]; rfl⟩
  · left
    refine ⟨.valueError, ?_⟩
    unfold abstainTool
    split
    · rename_i reason stated
      rw [if_pos]
      by_contra notBlank
      exact malformed ⟨reason, stated, Bool.eq_false_iff.mpr notBlank⟩
    · rfl
  · exact Or.inr rfl

/-- A call that is answered and is not what its tool asks for is answered with an error, and
changes nothing. -/
theorem tool_of_malformed [NestingLimit] {call : ProviderToolCall} {answer : ToolAnswer}
    (answered : tool view mandateId surface call = .ok answer) (malformed : ¬WellFormed call) :
    ∃ message, answer = errorAnswer message := by
  unfold tool at answered
  split at answered
  · cases answered
  · split at answered
    · cases answered
    · cases answered
      exact ⟨_, rfl⟩
    · rename_i arguments loadsEq
      have notArguments : ¬WellFormedArguments call.name arguments := fun wellFormed =>
        malformed ⟨arguments, loadsEq, wellFormed⟩
      rcases dispatchTool_of_malformed view surface mandateId notArguments with ⟨raised, isRaised⟩ | isUnknown
      · rw [isRaised] at answered
        cases raised with
        | keyError | valueError | validationError | agentRank =>
            cases answered
            exact ⟨_, rfl⟩
        | typeError | attributeError | recursionError => cases answered
      · rw [isUnknown] at answered
        cases answered
        exact ⟨_, rfl⟩
    · cases answered
      exact ⟨_, rfl⟩

end Branches
end AgentRank.Benchmark.Llm
