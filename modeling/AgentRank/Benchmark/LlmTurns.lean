import AgentRank.Benchmark.LlmMoves
import Mathlib.Tactic.SplitIfs

/-!
# What one turn of a model buyer adds

A turn makes a bounded number of attempts, all with one input, and then answers calls.  Each
function of the loop is described by what it adds to the attempts and to the answered calls.
-/

namespace AgentRank.Benchmark.Llm

open Constraints Store

/-! ## Asking -/

/-- So many attempts of a turn are added at most, and no call is answered. -/
structure Asked (turn most : Nat) (before after : BuyerState) : Prop where
  turns : after.turns = before.turns
  input : after.input = before.input
  answered : after.answered = before.answered
  attempted : ∃ fresh, after.attempted = before.attempted ++ fresh ∧ fresh.length ≤ most ∧
    ∀ attempt ∈ fresh, attempt.turn = turn ∧ attempt.input = before.input

section Asking

variable {limits : AgentLimits} {granted : Nat} {around : Surroundings} {turn : Nat} {started : ℚ}

theorem Asked.none {before after : BuyerState} {most : Nat} (turns : after.turns = before.turns)
    (input : after.input = before.input) (answered : after.answered = before.answered)
    (attempted : after.attempted = before.attempted) : Asked turn most before after where
  turns := turns
  input := input
  answered := answered
  attempted := ⟨[], by rw [attempted, List.append_nil], Nat.zero_le _, by simp⟩

theorem Asked.trans {first second third : BuyerState} {some more : Nat}
    (before : Asked turn some first second) (after : Asked turn more second third) :
    Asked turn (some + more) first third where
  turns := after.turns.trans before.turns
  input := after.input.trans before.input
  answered := after.answered.trans before.answered
  attempted := by
    obtain ⟨earlier, earlierEq, earlierBound, ofEarlier⟩ := before.attempted
    obtain ⟨later, laterEq, laterBound, ofLater⟩ := after.attempted
    refine ⟨earlier ++ later, by rw [laterEq, earlierEq, List.append_assoc], ?_, ?_⟩
    · rw [List.length_append]
      exact Nat.add_le_add earlierBound laterBound
    · intro attempt member
      rcases List.mem_append.mp member with isEarlier | isLater
      · exact ofEarlier attempt isEarlier
      · exact ⟨(ofLater attempt isLater).1, (ofLater attempt isLater).2.trans before.input⟩

/-- Fewer attempts are within a larger bound. -/
theorem Asked.mono {before after : BuyerState} {most more : Nat}
    (asked : Asked turn most before after) (le : most ≤ more) : Asked turn more before after where
  turns := asked.turns
  input := asked.input
  answered := asked.answered
  attempted := by
    obtain ⟨fresh, freshEq, bound, ofFresh⟩ := asked.attempted
    exact ⟨fresh, freshEq, Nat.le_trans bound le, ofFresh⟩

theorem asked_attemptOnce (state : BuyerState) :
    Asked turn 1 state (attemptOnce limits granted around turn started state).2 := by
  unfold attemptOnce
  dsimp only
  split
  · exact .none rfl rfl rfl rfl
  · rw [waitFor, respond]
    have added : ∀ attempt : Attempt, attempt.turn = turn → attempt.input = state.input →
        ∃ fresh, state.attempted ++ [attempt] = state.attempted ++ fresh ∧ fresh.length ≤ 1 ∧
          ∀ attempt ∈ fresh, attempt.turn = turn ∧ attempt.input = state.input := by
      intro attempt ofTurn withInput
      refine ⟨[attempt], rfl, Nat.le_refl _, ?_⟩
      intro other member
      rw [List.mem_singleton.mp member]
      exact ⟨ofTurn, withInput⟩
    split_ifs
    · exact ⟨rfl, rfl, rfl, added _ rfl rfl⟩
    · exact ⟨rfl, rfl, rfl, added _ rfl rfl⟩
    · cases around.provider _ with
      | error raised => exact ⟨rfl, rfl, rfl, added _ rfl rfl⟩
      | ok response => exact ⟨rfl, rfl, rfl, added _ rfl rfl⟩

theorem asked_throttledRespond (left : Nat) (state : BuyerState) :
    Asked turn (left + 1) state
      (throttledRespond limits granted around turn started left state).2 := by
  induction left generalizing state with
  | zero =>
      have first : Asked turn 1 state (attemptOnce limits granted around turn started state).2 :=
        asked_attemptOnce state
      unfold throttledRespond
      split
      · rename_i outcome
        rw [outcome] at first
        exact ⟨first.turns, first.input, first.answered, first.attempted⟩
      · exact first
  | succ left ih =>
      have first : Asked turn 1 state (attemptOnce limits granted around turn started state).2 :=
        asked_attemptOnce state
      unfold throttledRespond
      split
      · rename_i detail retryAfter after outcome
        rw [outcome] at first
        have noted : Asked turn 1 state ((after.add .providerError (throttleFields turn
            (throttleRetryLimit - (left + 1)) (.throttled detail retryAfter) retryAfter)).read) :=
          ⟨first.turns, first.input, first.answered, first.attempted⟩
        dsimp only
        split
        · exact noted.mono (Nat.le_add_left _ _)
        · have whole := noted.trans (ih _)
          rwa [Nat.add_comm 1 (left + 1)] at whole
      · exact first.mono (Nat.le_add_left _ _)

end Asking

/-- Calls of a turn are answered, and nothing is asked. -/
structure Called (turn : Nat) (before after : BuyerState) : Prop where
  turns : after.turns = before.turns
  attempted : after.attempted = before.attempted
  answered : ∃ fresh, after.answered = before.answered ++ fresh ∧
    ∀ answered ∈ fresh, answered.turn = turn

section Answering

variable [ArgumentReading] [ItemReading] [NestingLimit]
variable {limits : AgentLimits} {granted : Nat} {around : Surroundings} {turn : Nat} {started : ℚ}
variable {view : BuyerDiscoveryView} {mandateId merchantId : Uuid}

omit [ArgumentReading] [ItemReading] [NestingLimit] in
theorem Called.none {before after : BuyerState} (turns : after.turns = before.turns)
    (attempted : after.attempted = before.attempted) (answered : after.answered = before.answered) :
    Called turn before after where
  turns := turns
  attempted := attempted
  answered := ⟨[], by rw [answered, List.append_nil], by simp⟩

omit [ArgumentReading] [ItemReading] [NestingLimit] in
theorem Called.trans {first second third : BuyerState} (before : Called turn first second)
    (after : Called turn second third) : Called turn first third where
  turns := after.turns.trans before.turns
  attempted := after.attempted.trans before.attempted
  answered := by
    obtain ⟨earlier, earlierEq, ofEarlier⟩ := before.answered
    obtain ⟨later, laterEq, ofLater⟩ := after.answered
    refine ⟨earlier ++ later, by rw [laterEq, earlierEq, List.append_assoc], ?_⟩
    intro answered member
    rcases List.mem_append.mp member with isEarlier | isLater
    · exact ofEarlier answered isEarlier
    · exact ofLater answered isLater

omit [ArgumentReading] [ItemReading] [NestingLimit] in
theorem called_answer (state : BuyerState) (answered : AnsweredCall)
    (ofTurn : answered.turn = turn) : Called turn state (state.answer answered) where
  turns := rfl
  attempted := rfl
  answered := by
    refine ⟨[answered], rfl, ?_⟩
    intro other member
    rwa [List.mem_singleton.mp member]

/-- The calls of a response add answers of the turn. -/
theorem called_runCalls (calls : List ProviderToolCall) (outputs : List Json) (state : BuyerState) :
    Called turn state
      (runCalls limits around view mandateId merchantId turn calls outputs state).2 := by
  induction calls generalizing outputs state with
  | nil => exact .none rfl rfl rfl
  | cons call rest ih =>
      rw [runCalls_cons]
      split
      · exact .none rfl rfl rfl
      · split
        · exact .none rfl rfl rfl
        · rename_i answer _
          have one := called_answer state ⟨turn, call, answer⟩ (Eq.refl turn)
          dsimp only
          split
          · exact ⟨one.turns, one.attempted, one.answered⟩
          · exact one.trans (ih _ _)

/-- What goes on carries an output for every call that was answered. -/
theorem outputs_runCalls {calls : List ProviderToolCall} {outputs : List Json} {state : BuyerState}
    {input : List Json}
    (continues : (runCalls limits around view mandateId merchantId turn calls outputs state).1 =
      .ok (.continues input)) :
    ∃ fresh, (runCalls limits around view mandateId merchantId turn calls outputs state).2.answered =
        state.answered ++ fresh ∧ input = outputs ++ fresh.map outputOf := by
  induction calls generalizing outputs state with
  | nil =>
      cases continues
      exact ⟨[], by simp [runCalls], by simp⟩
  | cons call rest ih =>
      rw [runCalls_cons] at continues ⊢
      split at continues
      · cases continues
      · rename_i notOver
        rw [if_neg notOver]
        split at continues
        · cases continues
        · rename_i answer answerEq
          dsimp only at continues
          split at continues
          · cases continues
          · rename_i abstentionEq
            obtain ⟨fresh, freshEq, inputEq⟩ := ih continues
            refine ⟨⟨turn, call, answer⟩ :: fresh, ?_, ?_⟩
            · rw [freshEq]
              exact List.append_assoc _ _ _
            · rw [inputEq, List.append_assoc]
              rfl

/-! ## A turn -/

theorem called_useResponse (response : ProviderResponse) (state : BuyerState) :
    Called turn state
      (useResponse limits around view mandateId merchantId turn started response state).2 := by
  unfold useResponse
  dsimp only
  split
  · exact .none rfl rfl rfl
  · split
    · exact .none rfl rfl rfl
    · split
      · split <;> exact .none rfl rfl rfl
      · have begun : Called turn state
            ({ state with previous := response.responseId } : BuyerState).read :=
          .none rfl rfl rfl
        exact begun.trans (called_runCalls _ _ _)

theorem outputs_useResponse {response : ProviderResponse} {state : BuyerState} {input : List Json}
    (continues :
      (useResponse limits around view mandateId merchantId turn started response state).1 =
        .ok (.continues input)) :
    ∃ fresh, (useResponse limits around view mandateId merchantId turn started response
        state).2.answered = state.answered ++ fresh ∧ input = fresh.map outputOf := by
  unfold useResponse at continues ⊢
  dsimp only at continues ⊢
  split at continues
  · cases continues
  · rename_i isValid
    rw [if_neg isValid]
    split at continues
    · cases continues
    · rename_i inTime
      rw [if_neg inTime]
      split at continues
      · split at continues <;> cases continues
      · rename_i calls _ _
        exact outputs_runCalls continues

/-- What a turn adds: attempts with the input it was given, and then answers. -/
structure Turned (turn : Nat) (before after : BuyerState) : Prop where
  turns : after.turns = before.turns + 1
  attempted : ∃ fresh, after.attempted = before.attempted ++ fresh ∧
    fresh.length ≤ throttleRetryLimit ∧
      ∀ attempt ∈ fresh, attempt.turn = turn ∧ attempt.input = before.input
  answered : ∃ fresh, after.answered = before.answered ++ fresh ∧
    ∀ answered ∈ fresh, answered.turn = turn

theorem turned_runTurn (state : BuyerState) :
    Turned turn state
      (runTurn limits granted around view mandateId merchantId turn started state).2 := by
  have asked : Asked turn throttleRetryLimit
      ({ state with turns := state.turns + 1 } : BuyerState).read
        (throttledRespond limits granted around turn started (throttleRetryLimit - 1)
          ({ state with turns := state.turns + 1 } : BuyerState).read).2 :=
    asked_throttledRespond _ _
  have same : ∀ {before after : BuyerState}, after.answered = before.answered →
      ∃ fresh, after.answered = before.answered ++ fresh ∧
        ∀ answered ∈ fresh, answered.turn = turn := by
    intro before after answered
    exact ⟨[], by rw [answered, List.append_nil], by simp⟩
  unfold runTurn
  dsimp only
  split
  · exact ⟨rfl, ⟨[], (List.append_nil _).symm, Nat.zero_le _, by simp⟩, same rfl⟩
  · split
    · rename_i outcome
      rw [outcome] at asked
      exact ⟨asked.turns, asked.attempted, same asked.answered⟩
    · rename_i outcome
      rw [outcome] at asked
      exact ⟨asked.turns, asked.attempted, same asked.answered⟩
    · rename_i response latency after outcome
      rw [outcome] at asked
      have called : Called turn (recordResponse limits turn response latency after)
          (useResponse limits around view mandateId merchantId turn started response
            (recordResponse limits turn response latency after)).2 := called_useResponse _ _
      obtain ⟨attempts, attemptsEq, bound, ofAttempts⟩ := asked.attempted
      obtain ⟨answers, answersEq, ofAnswers⟩ := called.answered
      exact
        ⟨called.turns.trans asked.turns,
          ⟨attempts, called.attempted.trans attemptsEq, bound, ofAttempts⟩,
          ⟨answers, answersEq.trans (congrArg (· ++ answers) asked.answered), ofAnswers⟩⟩

/-- A turn that is followed by another hands it an output for every call it answered. -/
theorem outputs_runTurn {state : BuyerState} {input : List Json}
    (continues : (runTurn limits granted around view mandateId merchantId turn started state).1 =
      .ok (.continues input)) :
    ∃ fresh, (runTurn limits granted around view mandateId merchantId turn started
        state).2.answered = state.answered ++ fresh ∧ input = fresh.map outputOf := by
  have asked : Asked turn throttleRetryLimit
      ({ state with turns := state.turns + 1 } : BuyerState).read
        (throttledRespond limits granted around turn started (throttleRetryLimit - 1)
          ({ state with turns := state.turns + 1 } : BuyerState).read).2 :=
    asked_throttledRespond _ _
  unfold runTurn at continues ⊢
  dsimp only at continues ⊢
  split at continues
  · cases continues
  · rename_i inTime
    rw [if_neg inTime]
    split at continues
    · cases continues
    · cases continues
    · rename_i response latency after outcome
      rw [outcome] at asked
      obtain ⟨fresh, freshEq, inputEq⟩ := outputs_useResponse continues
      exact ⟨fresh, freshEq.trans (congrArg (· ++ fresh) asked.answered), inputEq⟩

end Answering
end AgentRank.Benchmark.Llm
