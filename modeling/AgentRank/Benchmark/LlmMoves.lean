import AgentRank.Benchmark.LlmBuyer
import Mathlib.Logic.Relation

/-!
# What the loop of a model buyer can do

Every state that the loop comes to is reached from the one before by moves, each of which changes
a few things at once.  What every move keeps, the loop keeps.
-/

namespace AgentRank.Benchmark.Llm

open Constraints Store

section Moves

variable (limits : AgentLimits) (granted : Nat) (around : Surroundings)

/-- A request written down: the time left for it has been read, and a clock reading follows. -/
def BuyerState.attempt (state : BuyerState) (attempt : Attempt) : BuyerState :=
  { state.add .modelRequest attempt.fields with
    readings := state.readings + 1
    attempted := state.attempted ++ [attempt] }

/-- A request counted, which then reaches the provider. -/
def BuyerState.send (state : BuyerState) (attempt : Attempt) : BuyerState :=
  { state with
    attempts := state.attempts + 1
    requests := state.requests ++ [attempt] }

/-- A call and its result written down, and what it changes. -/
def BuyerState.answer (state : BuyerState) (answered : AnsweredCall) : BuyerState :=
  let called := { state with calls := state.calls + 1 }
  let written :=
    called.add .toolCall
      (callFields answered.call "arguments" (Payload.text answered.call.arguments))
  let noted :=
    (written.add (if isErrorResult answered.answer.result then .toolError else .toolResult)
      (callFields answered.call "result" answered.answer.result)).apply answered.answer.change
  { noted with answered := state.answered ++ [answered] }

variable [ArgumentReading] [ItemReading] [NestingLimit]
variable (view : BuyerDiscoveryView) (mandateId : Uuid)

/-- One call of a response: it is over the budget, it raises, it ends the mission, or the calls
behind it follow. -/
theorem runCalls_cons {merchantId : Uuid} {turn : Nat} {call : ProviderToolCall}
    {rest : List ProviderToolCall} {outputs : List Json} {state : BuyerState} :
    runCalls limits around view mandateId merchantId turn (call :: rest) outputs state =
      if limits.maxToolCalls < state.calls + 1 then
        aborted merchantId "tool_call_budget_exceeded" turn
          (reportedError "agent tool-call budget exceeded" (by decide))
          { state with calls := state.calls + 1 }
      else
        match tool view mandateId (around.merchant state.answered.length) call with
        | .error raised =>
            (.error (.uncaught call raised),
              ({ state with calls := state.calls + 1 } : BuyerState).add .toolCall
                (callFields call "arguments" (Payload.text call.arguments)))
        | .ok answer =>
            let answered : AnsweredCall := { turn := turn, call := call, answer := answer }
            match answer.change.abstention with
            | some abstention =>
                let noted := (state.answer answered).add .agentFinal
                  (reasonFields "structured_abstention" turn)
                (.ok (.reported (noted.report merchantId none (some abstention))), noted)
            | none =>
                runCalls limits around view mandateId merchantId turn rest
                  (outputs ++ [outputOf answered]) (state.answer answered) :=
  rfl

/-- What the loop can do next. -/
inductive Move : BuyerState → BuyerState → Prop
  | read (state : BuyerState) : Move state state.read
  | turn (state : BuyerState) : Move state { state with turns := state.turns + 1 }
  | note (state : BuyerState) (eventType : TraceEventType) (fields : List (String × Json))
      (notRequest : eventType ≠ .modelRequest) (notResponse : eventType ≠ .modelResponse) :
      Move state (state.add eventType fields)
  | unsent (state : BuyerState) (attempt : Attempt) (room : state.attempts < granted)
      (late : attempt.timeLeft ≤ 0) : Move state (state.attempt attempt)
  | sent (state : BuyerState) (attempt : Attempt) (room : state.attempts < granted)
      (inTime : 0 < attempt.timeLeft) : Move state ((state.attempt attempt).send attempt)
  | response (state : BuyerState) (turn : Nat) (response : ProviderResponse) (latency : Nat) :
      Move state (recordResponse limits turn response latency state)
  | previous (state : BuyerState) (id : Option String) : Move state { state with previous := id }
  | input (state : BuyerState) (input : List Json) : Move state { state with input := input }
  | call (state : BuyerState) : Move state { state with calls := state.calls + 1 }
  | answer (state : BuyerState) (answered : AnsweredCall)
      (withinBudget : state.calls + 1 ≤ limits.maxToolCalls)
      (isAnswered : tool view mandateId (around.merchant state.answered.length) answered.call =
        .ok answered.answer) : Move state (state.answer answered)

/-- Some moves, one after the other. -/
def Reaches : BuyerState → BuyerState → Prop :=
  Relation.ReflTransGen (Move limits granted around view mandateId)

/-- What every move keeps is kept wherever the loop gets. -/
theorem Reaches.keeps {property : BuyerState → Prop}
    (kept : ∀ before after, Move limits granted around view mandateId before after →
      property before → property after)
    {before after : BuyerState} (reaches : Reaches limits granted around view mandateId before after)
    (holds : property before) : property after := by
  induction reaches with
  | refl => exact holds
  | tail _ move ih => exact kept _ _ move ih

variable {limits granted around view mandateId}

theorem Reaches.refl (state : BuyerState) :
    Reaches limits granted around view mandateId state state :=
  Relation.ReflTransGen.refl

theorem Reaches.trans {first second third : BuyerState}
    (before : Reaches limits granted around view mandateId first second)
    (after : Reaches limits granted around view mandateId second third) :
    Reaches limits granted around view mandateId first third :=
  Relation.ReflTransGen.trans before after

theorem Move.reaches {before after : BuyerState}
    (move : Move limits granted around view mandateId before after) :
    Reaches limits granted around view mandateId before after :=
  Relation.ReflTransGen.single move

theorem Reaches.then {first second third : BuyerState}
    (before : Reaches limits granted around view mandateId first second)
    (move : Move limits granted around view mandateId second third) :
    Reaches limits granted around view mandateId first third :=
  Relation.ReflTransGen.tail before move

variable (limits granted around view mandateId)

/-- An attempt makes one request, or is refused before it writes one down. -/
theorem reaches_attemptOnce (turn : Nat) (started : ℚ) (state : BuyerState) :
    Reaches limits granted around view mandateId state (attemptOnce limits granted around turn started state).2 := by
  have firstRead : Reaches limits granted around view mandateId state state.read :=
    (Move.read state).reaches
  unfold attemptOnce
  dsimp only
  split
  · exact firstRead
  · rename_i notExhausted
    have room : state.read.attempts < granted := by simpa [isExhausted] using notExhausted
    have notExhaustedLater : ∀ attempt : Attempt,
        isExhausted granted (state.read.attempt attempt) = false := by
      intro attempt
      exact Bool.eq_false_iff.mpr notExhausted
    generalize attemptEq : Attempt.mk turn state.read.previous state.read.input
      (limits.deadlineSeconds - (state.now around - started)) = attempt
    have writtenEq : BuyerState.read
        { state.read.add .modelRequest attempt.fields with
          attempted := state.read.attempted ++ [attempt] } = state.read.attempt attempt := rfl
    rw [writtenEq]
    by_cases late : min limits.providerTimeoutSeconds attempt.timeLeft ≤ 0
    · have isLate : attempt.timeLeft ≤ 0 := by
        rcases min_le_iff.mp late with timeout | left
        · exact absurd timeout (not_le.mpr limits.timeoutPositive)
        · exact left
      rw [waitFor, if_pos late]
      exact firstRead.then (.unsent _ attempt room isLate)
    · have inTime : 0 < attempt.timeLeft := lt_of_lt_of_le (not_le.mp late) (min_le_right _ _)
      have sent := firstRead.then (.sent _ attempt room inTime)
      rw [waitFor, if_neg late, respond, if_neg (by rw [notExhaustedLater]; decide)]
      cases around.provider (state.read.attempt attempt).requests.length with
      | error raised => exact sent
      | ok response => exact sent.then (.read _)

/-- A throttled request is made again, which is one more attempt. -/
theorem reaches_throttledRespond (turn : Nat) (started : ℚ) (left : Nat) (state : BuyerState) :
    Reaches limits granted around view mandateId state
      (throttledRespond limits granted around turn started left state).2 := by
  induction left generalizing state with
  | zero =>
      have reaches := reaches_attemptOnce limits granted around view mandateId turn started state
      unfold throttledRespond
      split
      · rename_i outcome
        rw [outcome] at reaches
        exact reaches.then (.note _ _ _ (by decide) (by decide))
      · exact reaches
  | succ left ih =>
      have reaches := reaches_attemptOnce limits granted around view mandateId turn started state
      unfold throttledRespond
      split
      · rename_i detail retryAfter after outcome
        rw [outcome] at reaches
        have noted := (reaches.then (.note after .providerError (throttleFields turn
          (throttleRetryLimit - (left + 1)) (.throttled detail retryAfter) retryAfter)
          (by decide) (by decide))).then (.read _)
        dsimp only
        split
        · exact noted
        · exact noted.trans (ih _)
      · exact reaches

theorem reaches_aborted (merchantId : Uuid) (reason : String) (turn : Nat) (error : ReportedError)
    (state : BuyerState) :
    Reaches limits granted around view mandateId state (aborted merchantId reason turn error state).2 :=
  (Move.note state .agentAbort _ (by decide) (by decide)).reaches

variable (merchantId : Uuid)

theorem reaches_runCalls (turn : Nat) (calls : List ProviderToolCall) (outputs : List Json)
    (state : BuyerState) :
    Reaches limits granted around view mandateId state
      (runCalls limits around view mandateId merchantId turn calls outputs state).2 := by
  induction calls generalizing outputs state with
  | nil => exact Reaches.refl _
  | cons call rest ih =>
      have counted : Reaches limits granted around view mandateId state
          { state with calls := state.calls + 1 } := (Move.call state).reaches
      rw [runCalls_cons]
      split
      · exact counted.trans (reaches_aborted limits granted around view mandateId _ _ _ _ _)
      · rename_i notOver
        have withinBudget : state.calls + 1 ≤ limits.maxToolCalls := Nat.le_of_not_lt notOver
        split
        · exact counted.then (.note _ _ _ (by decide) (by decide))
        · rename_i answer answerEq
          dsimp only
          have answered : Reaches limits granted around view mandateId state
              (state.answer { turn := turn, call := call, answer := answer }) :=
            (Move.answer state _ withinBudget answerEq).reaches
          split
          · exact answered.then (.note _ .agentFinal _ (by decide) (by decide))
          · exact answered.trans (ih _ _)

theorem reaches_useResponse (turn : Nat) (started : ℚ) (response : ProviderResponse)
    (state : BuyerState) :
    Reaches limits granted around view mandateId state
      (useResponse limits around view mandateId merchantId turn started response state).2 := by
  have aborts := fun reason error =>
    reaches_aborted limits granted around view mandateId merchantId reason turn error
  have read : Reaches limits granted around view mandateId state
      ({ state with previous := response.responseId } : BuyerState).read :=
    ((Move.previous state response.responseId).reaches).then (.read _)
  unfold useResponse
  dsimp only
  split
  · exact aborts _ _ _
  · split
    · exact read.trans (aborts _ _ _)
    · split
      · split
        · exact read.trans (aborts _ _ _)
        · exact read.trans (aborts _ _ _)
      · exact read.trans
          (reaches_runCalls limits granted around view mandateId merchantId _ _ _ _)

theorem reaches_runTurn (turn : Nat) (started : ℚ) (state : BuyerState) :
    Reaches limits granted around view mandateId state
      (runTurn limits granted around view mandateId merchantId turn started state).2 := by
  have aborts := fun reason error =>
    reaches_aborted limits granted around view mandateId merchantId reason turn error
  have begun : Reaches limits granted around view mandateId state
      ({ state with turns := state.turns + 1 } : BuyerState).read :=
    ((Move.turn state).reaches).then (.read _)
  have asked := begun.trans (reaches_throttledRespond limits granted around view mandateId turn
    started (throttleRetryLimit - 1) _)
  unfold runTurn
  dsimp only
  split
  · exact begun.trans (aborts _ _ _)
  · split
    · rename_i outcome
      rw [outcome] at asked
      exact asked
    · rename_i outcome
      rw [outcome] at asked
      exact (asked.then (.note _ .providerError _ (by decide) (by decide))).trans (aborts _ _ _)
    · rename_i outcome
      rw [outcome] at asked
      exact (asked.then (.response _ turn _ _)).trans
        (reaches_useResponse limits granted around view mandateId merchantId _ _ _ _)

theorem reaches_runTurns (started : ℚ) (left turn : Nat) (state : BuyerState) :
    Reaches limits granted around view mandateId state
      (runTurns limits granted around view mandateId merchantId started left turn state).2 := by
  induction left generalizing turn state with
  | zero => exact (Move.note state .agentAbort _ (by decide) (by decide)).reaches
  | succ left ih =>
      have first := reaches_runTurn limits granted around view mandateId merchantId turn started
        state
      unfold runTurns
      split
      · rename_i outcome
        rw [outcome] at first
        exact first
      · rename_i outcome
        rw [outcome] at first
        exact first
      · rename_i input after outcome
        rw [outcome] at first
        exact (first.then (.input _ input)).trans (ih _ _)

/-- The state that an execution ends in is reached by moves. -/
theorem reaches_execute (missionInput : Json) :
    Reaches limits granted around view mandateId { input := [missionInput] }
      (execute limits granted around view mandateId merchantId missionInput).2 :=
  ((Move.read _).reaches).trans
    (reaches_runTurns limits granted around view mandateId merchantId _ _ _ _)

end Moves
end AgentRank.Benchmark.Llm
