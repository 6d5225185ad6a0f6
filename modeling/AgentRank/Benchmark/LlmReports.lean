import AgentRank.Benchmark.LlmAnswers
import AgentRank.Benchmark.LlmRequests

/-!
# What a model buyer reports

Every call that is handled is answered, and its answer is what the next request carries.  An
execution in which every call is handled returns a report, unless the allowance is exhausted,
and the report states what the last successful calls did.
-/

namespace AgentRank.Benchmark.Llm

open Constraints Relational Store

/-! ## What a tool changes -/

section Changes

variable {view : BuyerDiscoveryView} {surface : BuyerSurface} {mandateId : Uuid}
variable {arguments : List (String × Json)} {answer : ToolAnswer}

theorem change_searchTool [ArgumentReading] (answered : searchTool view surface arguments = .ok answer) :
    answer.change = {} := by
  unfold searchTool at answered
  split at answered
  · cases answered
  · split at answered
    · cases answered
    · obtain ⟨_, _, answered⟩ := except_bind_eq_ok_iff.mp answered
      obtain ⟨_, _, answered⟩ := except_bind_eq_ok_iff.mp answered
      obtain ⟨_, _, answered⟩ := except_bind_eq_ok_iff.mp answered
      cases answered
      rfl

theorem change_productTool [ArgumentReading]
    (answered : productTool view surface arguments = .ok answer) :
    answer.change = {} := by
  obtain ⟨_, _, answered⟩ := except_bind_eq_ok_iff.mp answered
  obtain ⟨_, _, answered⟩ := except_bind_eq_ok_iff.mp answered
  obtain ⟨_, _, answered⟩ := except_bind_eq_ok_iff.mp answered
  cases answered
  rfl

theorem change_checkoutTool [ArgumentReading] {operation : Uuid → SurfaceAnswer Json}
    (answered : checkoutTool operation arguments = .ok answer) : answer.change = {} := by
  obtain ⟨_, _, answered⟩ := except_bind_eq_ok_iff.mp answered
  obtain ⟨_, _, answered⟩ := except_bind_eq_ok_iff.mp answered
  cases answered
  rfl

/-- A checkout that was made is reported with the item it was made for first. -/
theorem change_createTool [ItemReading]
    (answered : createTool mandateId surface arguments = .ok answer) :
    answer.change.selection.isSome = true ∧ answer.change.checkout.isSome = true ∧
      answer.change.payment = none := by
  obtain ⟨items, _, answered⟩ := except_bind_eq_ok_iff.mp answered
  split at answered
  · rename_i quotable
    obtain ⟨_, _, answered⟩ := except_bind_eq_ok_iff.mp answered
    cases answered
    refine ⟨?_, rfl, rfl⟩
    cases items with
    | nil => exact absurd quotable (by decide)
    | cons item rest => rfl
  · cases answered

theorem change_completeTool [ArgumentReading] (answered : completeTool surface arguments = .ok answer) :
    answer.change.selection = none ∧ answer.change.checkout = none := by
  obtain ⟨_, _, answered⟩ := except_bind_eq_ok_iff.mp answered
  obtain ⟨_, _, answered⟩ := except_bind_eq_ok_iff.mp answered
  cases answered
  exact ⟨rfl, rfl⟩

theorem change_abstainTool (answered : abstainTool arguments = .ok answer) :
    answer.change.selection = none ∧ answer.change.checkout = none ∧
      answer.change.payment = none := by
  unfold abstainTool at answered
  split at answered
  · split at answered
    · cases answered
    · cases answered
      exact ⟨rfl, rfl, rfl⟩
  · cases answered

/-- What an answer changes is what the tool that was named may change. -/
structure ChangesAs (name : String) (answer : ToolAnswer) : Prop where
  selection : answer.change.selection.isSome = true ↔
    name = "create_checkout" ∧ ∀ message, answer ≠ errorAnswer message
  checkout : answer.change.checkout.isSome = true ↔
    name = "create_checkout" ∧ ∀ message, answer ≠ errorAnswer message
  payment : answer.change.payment.isSome = true →
    name = "complete_checkout" ∧ ∀ message, answer ≠ errorAnswer message

theorem changesAs_errorAnswer (name message : String) : ChangesAs name (errorAnswer message) where
  selection := ⟨nofun, fun held => absurd rfl (held.2 message)⟩
  checkout := ⟨nofun, fun held => absurd rfl (held.2 message)⟩
  payment := nofun

/-- A tool that makes no checkout reports neither a selection nor a checkout. -/
theorem changesAs_other {name : String} (other : name ≠ "create_checkout")
    (selection : answer.change.selection = none) (checkout : answer.change.checkout = none)
    (payment : answer.change.payment = none ∨ name = "complete_checkout") :
    ChangesAs name answer where
  selection := by simp [selection, other]
  checkout := by simp [checkout, other]
  payment changed := by
    refine ⟨?_, ?_⟩
    · rcases payment with none | named
      · rw [none] at changed
        cases changed
      · exact named
    · rintro message rfl
      cases changed

variable [ArgumentReading] [ItemReading]

theorem changesAs_dispatchTool {name : String}
    (answered : dispatchTool view mandateId surface name arguments = .ok answer) :
    ChangesAs name answer := by
  unfold dispatchTool at answered
  split_ifs at answered with search product create inspect prepare complete abstain
  · have unchanged := change_searchTool answered
    exact changesAs_other (by rw [search]; decide) (by rw [unchanged]) (by rw [unchanged])
      (Or.inl (by rw [unchanged]))
  · have unchanged := change_productTool answered
    exact changesAs_other (by rw [product]; decide) (by rw [unchanged]) (by rw [unchanged])
      (Or.inl (by rw [unchanged]))
  · obtain ⟨selection, checkout, payment⟩ := change_createTool answered
    have done : ∀ message, answer ≠ errorAnswer message := by
      rintro message rfl
      cases selection
    exact
      { selection := iff_of_true selection ⟨create, done⟩
        checkout := iff_of_true checkout ⟨create, done⟩
        payment := fun changed => by rw [payment] at changed; cases changed }
  · have unchanged := change_checkoutTool answered
    exact changesAs_other create (by rw [unchanged]) (by rw [unchanged])
      (Or.inl (by rw [unchanged]))
  · have unchanged := change_checkoutTool answered
    exact changesAs_other create (by rw [unchanged]) (by rw [unchanged])
      (Or.inl (by rw [unchanged]))
  · obtain ⟨selection, checkout⟩ := change_completeTool answered
    exact changesAs_other create selection checkout (Or.inr complete)
  · obtain ⟨selection, checkout, payment⟩ := change_abstainTool answered
    exact changesAs_other create selection checkout (Or.inl payment)
  · cases answered
    exact changesAs_errorAnswer _ _

/-- An answer changes what the tool that the call names may change. -/
theorem changesAs_tool [NestingLimit] {call : ProviderToolCall}
    (answered : tool view mandateId surface call = .ok answer) : ChangesAs call.name answer := by
  unfold tool at answered
  split at answered
  · cases answered
  · split at answered
    · cases answered
    · cases answered
      exact changesAs_errorAnswer _ _
    · rename_i arguments _
      cases dispatched : dispatchTool view mandateId surface call.name arguments with
      | ok inner =>
          rw [dispatched] at answered
          cases answered
          exact changesAs_dispatchTool dispatched
      | error raised =>
          rw [dispatched] at answered
          cases raised with
          | keyError | valueError | validationError | agentRank =>
              cases answered
              exact changesAs_errorAnswer _ _
          | typeError | attributeError | recursionError => cases answered
    · cases answered
      exact changesAs_errorAnswer _ _

end Changes

/-- The last value that is there. -/
def lastOf {α β : Type} (value : α → Option β) (items : List α) : Option β :=
  (items.filterMap value).getLast?

theorem lastOf_append {α β : Type} (value : α → Option β) (items : List α) (item : α) :
    lastOf value (items ++ [item]) = (value item).or (lastOf value items) := by
  rw [lastOf, List.filterMap_append, List.getLast?_append, lastOf]
  cases valueEq : value item <;> simp [valueEq]

section Calls

variable [ArgumentReading] [ItemReading] [NestingLimit]
variable (around : Surroundings) (view : BuyerDiscoveryView) (mandateId : Uuid)

/-- Every call was answered by the merchant of its time, and the state holds what the last of
them changed. -/
structure Kept (state : BuyerState) : Prop where
  answers : ∀ position answered, state.answered[position]? = some answered →
    tool view mandateId (around.merchant position) answered.call = .ok answered.answer
  selection : state.selection =
    lastOf (fun answered : AnsweredCall => answered.answer.change.selection) state.answered
  checkout : state.checkout =
    lastOf (fun answered : AnsweredCall => answered.answer.change.checkout) state.answered
  payment : state.payment =
    lastOf (fun answered : AnsweredCall => answered.answer.change.payment) state.answered

variable {around view mandateId} {limits : AgentLimits} {granted : Nat}

theorem kept_initial (input : List Json) : Kept around view mandateId { input := input } where
  answers := by simp
  selection := rfl
  checkout := rfl
  payment := rfl

variable {state : BuyerState}

theorem Kept.answer {answered : AnsweredCall} (kept : Kept around view mandateId state)
    (isAnswered : tool view mandateId (around.merchant state.answered.length) answered.call =
      .ok answered.answer) : Kept around view mandateId (state.answer answered) where
  answers := by
    intro position other held
    change (state.answered ++ [answered])[position]? = some other at held
    rw [List.getElem?_append] at held
    split at held
    · exact kept.answers position other held
    · rename_i beyond
      obtain ⟨isFirst, same⟩ := List.getElem?_eq_some_iff.mp held
      have positionEq : position = state.answered.length := by
        rw [List.length_singleton] at isFirst
        omega
      subst positionEq
      simp only [List.getElem_singleton] at same
      rwa [← same]
  selection := by
    change answered.answer.change.selection.or state.selection = lastOf _ (state.answered ++ [answered])
    rw [lastOf_append, kept.selection]
  checkout := by
    change answered.answer.change.checkout.or state.checkout = lastOf _ (state.answered ++ [answered])
    rw [lastOf_append, kept.checkout]
  payment := by
    change answered.answer.change.payment.or state.payment = lastOf _ (state.answered ++ [answered])
    rw [lastOf_append, kept.payment]

theorem kept_of_move (before after : BuyerState)
    (move : Move limits granted around view mandateId before after)
    (kept : Kept around view mandateId before) : Kept around view mandateId after := by
  cases move with
  | answer answered withinBudget isAnswered => exact kept.answer isAnswered
  | read | turn | note | unsent | sent | response | previous | input | call => exact { kept with }

/-! ## How the loop ends -/

variable {merchantId : Uuid} {turn : Nat} {started : ℚ}

/-- A report states what the state holds. -/
structure States (report : ExecutorReport) (state : BuyerState) : Prop where
  selection : report.selection = state.selection
  checkout : report.checkout = state.checkout
  payment : report.payment = state.payment

omit [ArgumentReading] [ItemReading] [NestingLimit] in
theorem states_report (state : BuyerState) (error : Option ReportedError)
    (abstention : Option ReportedAbstention) :
    States (state.report merchantId error abstention) state :=
  ⟨rfl, rfl, rfl⟩

/-- What leaves the loop is an exhausted allowance, or what the merchant's answer to a call
raised. -/
def Escapes (around : Surroundings) (view : BuyerDiscoveryView) (mandateId : Uuid)
    (state : BuyerState) : Escaped → Prop
  | .allowanceExhausted _ _ => True
  | .uncaught call raised =>
      tool view mandateId (around.merchant state.answered.length) call = .error raised

/-- How a turn may end. -/
def Ends (around : Surroundings) (view : BuyerDiscoveryView) (mandateId : Uuid)
    (state : BuyerState) : Except Escaped TurnEnd → Prop
  | .error escaped => Escapes around view mandateId state escaped
  | .ok (.reported report) => States report state
  | .ok (.continues _) => True

variable {after : BuyerState}

omit [ArgumentReading] [ItemReading] [NestingLimit] in
theorem escaped_waitFor {attempt : Attempt} {escaped : Escaped}
    (outcome : waitFor limits granted around attempt state = (.error escaped, after)) :
    ∃ allowed attempted, escaped = .allowanceExhausted allowed attempted := by
  unfold waitFor at outcome
  split at outcome
  · cases outcome
  · unfold respond at outcome
    split at outcome
    · cases outcome
      exact ⟨_, _, rfl⟩
    · cases outcome

omit [ArgumentReading] [ItemReading] [NestingLimit] in
/-- An attempt is answered or fails at the provider, unless the allowance is exhausted. -/
theorem escaped_attemptOnce {escaped : Escaped}
    (outcome : attemptOnce limits granted around turn started state = (.error escaped, after)) :
    ∃ allowed attempted, escaped = .allowanceExhausted allowed attempted := by
  unfold attemptOnce at outcome
  dsimp only at outcome
  split at outcome
  · cases outcome
    exact ⟨_, _, rfl⟩
  · split at outcome
    · rename_i waited
      cases outcome
      exact escaped_waitFor waited
    · cases outcome
    · cases outcome

omit [ArgumentReading] [ItemReading] [NestingLimit] in
theorem escaped_throttledRespond {left : Nat} {escaped : Escaped}
    (outcome : throttledRespond limits granted around turn started left state =
      (.error escaped, after)) :
    ∃ allowed attempted, escaped = .allowanceExhausted allowed attempted := by
  induction left generalizing state with
  | zero =>
      unfold throttledRespond at outcome
      split at outcome
      · cases outcome
      · exact escaped_attemptOnce outcome
  | succ left ih =>
      unfold throttledRespond at outcome
      split at outcome
      · dsimp only at outcome
        split at outcome
        · cases outcome
        · exact ih outcome
      · exact escaped_attemptOnce outcome

theorem ends_runCalls (calls : List ProviderToolCall) (outputs : List Json) (state : BuyerState) :
    Ends around view mandateId
      (runCalls limits around view mandateId merchantId turn calls outputs state).2
      (runCalls limits around view mandateId merchantId turn calls outputs state).1 := by
  induction calls generalizing outputs state with
  | nil => trivial
  | cons call rest ih =>
      rw [runCalls_cons]
      split
      · exact states_report _ _ _
      · split
        · rename_i raised raisedEq
          exact raisedEq
        · dsimp only
          split
          · exact states_report _ _ _
          · exact ih _ _

theorem ends_useResponse (response : ProviderResponse) (state : BuyerState) :
    Ends around view mandateId
      (useResponse limits around view mandateId merchantId turn started response state).2
      (useResponse limits around view mandateId merchantId turn started response state).1 := by
  unfold useResponse
  dsimp only
  split
  · exact states_report _ _ _
  · split
    · exact states_report _ _ _
    · split
      · split
        · exact states_report _ _ _
        · exact states_report _ _ _
      · exact ends_runCalls _ _ _

theorem ends_runTurn (state : BuyerState) :
    Ends around view mandateId
      (runTurn limits granted around view mandateId merchantId turn started state).2
      (runTurn limits granted around view mandateId merchantId turn started state).1 := by
  unfold runTurn
  dsimp only
  split
  · exact states_report _ _ _
  · split
    · rename_i outcome
      obtain ⟨allowed, attempted, rfl⟩ := escaped_throttledRespond outcome
      trivial
    · exact states_report _ _ _
    · exact ends_useResponse _ _

/-- How an execution may end. -/
def Finishes (around : Surroundings) (view : BuyerDiscoveryView) (mandateId : Uuid)
    (state : BuyerState) : Except Escaped ExecutorReport → Prop
  | .error escaped => Escapes around view mandateId state escaped
  | .ok report => States report state

theorem finishes_runTurns (left turn : Nat) (state : BuyerState) :
    Finishes around view mandateId
      (runTurns limits granted around view mandateId merchantId started left turn state).2
      (runTurns limits granted around view mandateId merchantId started left turn state).1 := by
  induction left generalizing turn state with
  | zero => exact states_report _ _ _
  | succ left ih =>
      have ends : Ends around view mandateId
          (runTurn limits granted around view mandateId merchantId turn started state).2
          (runTurn limits granted around view mandateId merchantId turn started state).1 :=
        ends_runTurn state
      unfold runTurns
      split
      · rename_i outcome
        rw [outcome] at ends
        exact ends
      · rename_i outcome
        rw [outcome] at ends
        exact ends
      · exact ih _ _

/-! ## What the requests carry -/

/-- The input of a turn: the mission at first, and then an output for every call that was
answered in the turn before. -/
def inputOf (missionInput : Json) (answered : List AnsweredCall) (turn : Nat) : List Json :=
  if turn ≤ 1 then [missionInput]
  else (answered.filter fun answered => decide (answered.turn + 1 = turn)).map outputOf

/-- Every request carried the input of its turn. -/
def Fed (missionInput : Json) (state : BuyerState) : Prop :=
  ∀ attempt ∈ state.attempted, attempt.input = inputOf missionInput state.answered attempt.turn

/-- What holds before a turn is begun. -/
structure FedBefore (missionInput : Json) (turn : Nat) (state : BuyerState) : Prop where
  fed : Fed missionInput state
  attempted : ∀ attempt ∈ state.attempted, attempt.turn < turn
  answered : ∀ answered ∈ state.answered, answered.turn < turn
  input : state.input = inputOf missionInput state.answered turn

section Inputs

variable {missionInput : Json} {earlier fresh : List AnsweredCall}

omit [ArgumentReading] [ItemReading] [NestingLimit] in
/-- Answers of a turn are no input of that turn or of one before it. -/
theorem inputOf_append {reached : Nat} (ofTurn : ∀ answered ∈ fresh, answered.turn = turn)
    (within : reached ≤ turn) :
    inputOf missionInput (earlier ++ fresh) reached = inputOf missionInput earlier reached := by
  have none : fresh.filter (fun answered => decide (answered.turn + 1 = reached)) = [] := by
    apply List.filter_eq_nil_iff.mpr
    intro answered member
    rw [decide_eq_true_iff, ofTurn answered member]
    omega
  rw [inputOf, inputOf, List.filter_append, none, List.append_nil]

omit [ArgumentReading] [ItemReading] [NestingLimit] in
/-- Answers of a turn are the input of the next one. -/
theorem inputOf_next (started : 1 ≤ turn)
    (ofEarlier : ∀ answered ∈ earlier, answered.turn < turn)
    (ofTurn : ∀ answered ∈ fresh, answered.turn = turn) :
    inputOf missionInput (earlier ++ fresh) (turn + 1) = fresh.map outputOf := by
  have none : earlier.filter (fun answered => decide (answered.turn + 1 = turn + 1)) = [] := by
    apply List.filter_eq_nil_iff.mpr
    intro answered member
    have isEarlier := ofEarlier answered member
    rw [decide_eq_true_iff]
    omega
  have all : fresh.filter (fun answered => decide (answered.turn + 1 = turn + 1)) = fresh := by
    apply List.filter_eq_self.mpr
    intro answered member
    rw [decide_eq_true_iff, ofTurn answered member]
  rw [inputOf, if_neg (by omega), List.filter_append, none, all, List.nil_append]

omit [ArgumentReading] [ItemReading] [NestingLimit] in
/-- The requests of one more turn carried the input that it was given. -/
theorem FedBefore.turned {before : BuyerState} (fed : FedBefore missionInput turn before)
    (turned : Turned turn before after) : Fed missionInput after := by
  obtain ⟨requests, requestsEq, _, ofRequests⟩ := turned.attempted
  obtain ⟨answers, answersEq, ofAnswers⟩ := turned.answered
  intro attempt member
  rw [requestsEq] at member
  rw [answersEq]
  rcases List.mem_append.mp member with isEarlier | isFresh
  · rw [inputOf_append ofAnswers (fed.attempted attempt isEarlier).le]
    exact fed.fed attempt isEarlier
  · obtain ⟨ofTurn, withInput⟩ := ofRequests attempt isFresh
    rw [inputOf_append ofAnswers ofTurn.le, withInput, ofTurn]
    exact fed.input

omit [ArgumentReading] [ItemReading] [NestingLimit] in
/-- A turn that hands on an output for every call it answered is followed by a fed one. -/
theorem FedBefore.next {before : BuyerState} {input : List Json} (started : 1 ≤ turn)
    (fed : FedBefore missionInput turn before) (turned : Turned turn before after)
    (outputs : ∃ fresh, after.answered = before.answered ++ fresh ∧ input = fresh.map outputOf) :
    FedBefore missionInput (turn + 1) { after with input := input } := by
  obtain ⟨requests, requestsEq, _, ofRequests⟩ := turned.attempted
  obtain ⟨answers, answersEq, ofAnswers⟩ := turned.answered
  obtain ⟨given, givenEq, inputEq⟩ := outputs
  have same : given = answers := List.append_cancel_left (givenEq.symm.trans answersEq)
  subst same
  have whole : Fed missionInput after := fed.turned turned
  refine ⟨whole, ?_, ?_, ?_⟩
  · intro attempt member
    dsimp only at member
    rw [requestsEq] at member
    rcases List.mem_append.mp member with isEarlier | isFresh
    · exact Nat.lt_succ_of_lt (fed.attempted attempt isEarlier)
    · rw [(ofRequests attempt isFresh).1]
      exact Nat.lt_succ_self _
  · intro answered member
    dsimp only at member
    rw [answersEq] at member
    rcases List.mem_append.mp member with isEarlier | isFresh
    · exact Nat.lt_succ_of_lt (fed.answered answered isEarlier)
    · rw [ofAnswers answered isFresh]
      exact Nat.lt_succ_self _
  · dsimp only
    rw [answersEq, inputOf_next started fed.answered ofAnswers]
    exact inputEq

end Inputs

theorem fed_runTurns {missionInput : Json} {left : Nat} (begun : 1 ≤ turn)
    (fed : FedBefore missionInput turn state) :
    Fed missionInput
      (runTurns limits granted around view mandateId merchantId started left turn state).2 := by
  induction left generalizing turn state with
  | zero => exact fed.fed
  | succ left ih =>
      have turned : Turned turn state
          (runTurn limits granted around view mandateId merchantId turn started state).2 :=
        turned_runTurn state
      have whole := fed.turned turned
      unfold runTurns
      split
      · rename_i outcome
        rw [outcome] at whole
        exact whole
      · rename_i outcome
        rw [outcome] at whole
        exact whole
      · rename_i input after outcome
        have outputs := outputs_runTurn (congrArg Prod.fst outcome)
        rw [outcome] at turned outputs
        exact ih (Nat.le_succ_of_le begun) (fed.next begun turned outputs)

/-! ## Executions -/

/-- The calls that were made, in their order: all that were answered, and one that was not where
it raised what nothing catches. -/
def madeCalls (run : Except Escaped ExecutorReport × BuyerState) : List ProviderToolCall :=
  run.2.answered.map AnsweredCall.call ++
    match run.1 with
    | .error (.uncaught call _) => [call]
    | _ => []

/-- A run that ends as it should: with a report, or with an exhausted allowance. -/
def EndsWell (run : Except Escaped ExecutorReport × BuyerState) : Prop :=
  (∃ report, run.1 = .ok report) ∨
    ∃ allowed attempted, run.1 = .error (.allowanceExhausted allowed attempted)

theorem endsWell_iff {run : Except Escaped ExecutorReport × BuyerState}
    (finishes : Finishes around view mandateId run.2 run.1)
    (kept : Kept around view mandateId run.2) :
    EndsWell run ↔ ∀ position call, (madeCalls run)[position]? = some call →
      Handled view (around.merchant position) call := by
  obtain ⟨outcome, final⟩ := run
  have answeredHandled : ∀ position call,
      (final.answered.map AnsweredCall.call)[position]? = some call →
        Handled view (around.merchant position) call := by
    intro position call held
    rw [List.getElem?_map, Option.map_eq_some_iff] at held
    obtain ⟨answered, isAnswered, rfl⟩ := held
    exact tool_isOk_iff.mp ⟨answered.answer, kept.answers position answered isAnswered⟩
  cases outcome with
  | ok report =>
      refine iff_of_true (Or.inl ⟨report, rfl⟩) ?_
      intro position call held
      rw [madeCalls, List.append_nil] at held
      exact answeredHandled position call held
  | error escaped =>
      cases escaped with
      | allowanceExhausted allowed attempted =>
          refine iff_of_true (Or.inr ⟨allowed, attempted, rfl⟩) ?_
          intro position call held
          rw [madeCalls, List.append_nil] at held
          exact answeredHandled position call held
      | uncaught call raised =>
          refine iff_of_false ?_ ?_
          · rintro (⟨report, isReport⟩ | ⟨allowed, attempted, isExhausted⟩)
            · cases isReport
            · cases isExhausted
          · intro handled
            have last := handled final.answered.length call (by simp [madeCalls])
            obtain ⟨answer, isAnswered⟩ := tool_isOk_iff.mpr last
            have raisedEq : tool view mandateId (around.merchant final.answered.length) call =
                .error raised := finishes
            rw [raisedEq] at isAnswered
            cases isAnswered

end Calls

section Executions

variable [ArgumentReading] [ItemReading] [NestingLimit]

/-- What comes of an execution, and of every call that the model made in it. -/
theorem execute_reports (limits : AgentLimits) (granted : Nat) (around : Surroundings)
    (view : BuyerDiscoveryView) (mandateId merchantId : Uuid) (missionInput : Json) :
    let run := execute limits granted around view mandateId merchantId missionInput
    (EndsWell run ↔ ∀ position call, (madeCalls run)[position]? = some call →
        Handled view (around.merchant position) call) ∧
      (∀ answered ∈ run.2.answered, ¬WellFormed answered.call →
        ∃ message, answered.answer = errorAnswer message) ∧
      Fed missionInput run.2 ∧
      (∀ answered ∈ run.2.answered, ChangesAs answered.call.name answered.answer) ∧
      ∀ report, run.1 = .ok report →
        report.selection =
            lastOf (fun answered : AnsweredCall => answered.answer.change.selection)
              run.2.answered ∧
          report.checkout =
            lastOf (fun answered : AnsweredCall => answered.answer.change.checkout)
              run.2.answered ∧
          report.payment =
            lastOf (fun answered : AnsweredCall => answered.answer.change.payment)
              run.2.answered := by
  intro run
  have reached := reaches_execute limits granted around view mandateId merchantId missionInput
  have kept : Kept around view mandateId run.2 :=
    reached.keeps limits granted around view mandateId kept_of_move (kept_initial [missionInput])
  have finishes : Finishes around view mandateId run.2 run.1 := finishes_runTurns _ _ _
  have answers : ∀ answered ∈ run.2.answered, ∃ position,
      tool view mandateId (around.merchant position) answered.call = .ok answered.answer := by
    intro answered member
    obtain ⟨position, held⟩ := List.mem_iff_getElem?.mp member
    exact ⟨position, kept.answers position answered held⟩
  refine ⟨endsWell_iff finishes kept, ?_, ?_, ?_, ?_⟩
  · intro answered member malformed
    obtain ⟨position, isAnswered⟩ := answers answered member
    exact tool_of_malformed isAnswered malformed
  · exact fed_runTurns (Nat.le_refl 1) ⟨nofun, nofun, nofun, rfl⟩
  · intro answered member
    obtain ⟨position, isAnswered⟩ := answers answered member
    exact changesAs_tool isAnswered
  · intro report isReport
    rw [isReport] at finishes
    exact
      ⟨finishes.selection.trans kept.selection, finishes.checkout.trans kept.checkout,
        finishes.payment.trans kept.payment⟩

end Executions

/-- A provider whose model asks for items of a checkout and names none. -/
def itemlessCall : Surroundings where
  clock _ := 0
  provider _ := .ok
    { responseId := some "response"
      model := none
      toolCalls := [⟨"call", "create_checkout", "\x7b\"items\": null\x7d"⟩] }
  merchant _ := refusingSurface

/-- Whether a call raised what nothing catches. -/
def isUncaught : Except Escaped ExecutorReport → Bool
  | .error (.uncaught _ _) => true
  | _ => false

theorem itemless_call_uncaught :
    let _ := noArguments
    let _ := noItems
    let _ := noLimit
    ¬EndsWell (execute oneTurn 6 itemlessCall { kind := .storefront } 1 2 .null) := by
  intro _ _ _ endsWell
  have uncaught : isUncaught
      (execute oneTurn 6 itemlessCall { kind := .storefront } 1 2 .null).1 = true := by
    decide +kernel
  rcases endsWell with ⟨report, isReport⟩ | ⟨allowed, attempted, isExhausted⟩
  · rw [isReport] at uncaught
    cases uncaught
  · rw [isExhausted] at uncaught
    cases uncaught

end AgentRank.Benchmark.Llm
