import AgentRank.Relational.Grouping
import Mathlib.Algebra.Order.BigOperators.Group.List
import Mathlib.Algebra.Order.Group.Nat
import Mathlib.Algebra.GroupWithZero.Nat
import Mathlib.Logic.Function.Basic

/-!
# Drawing in turns

Items lie in pools, each under a key.  Every round asks the keys in one order and takes the first
item of each pool that has one, until so many items are drawn or a round finds nothing.  What is
drawn is as much as there is within the budget, and at every point no key is ahead of another that
could still give.
-/

namespace AgentRank.Transition

variable {κ α : Type} [DecidableEq κ]

/-- What is left in the pools, and what has been drawn from them. -/
structure Drawing (κ α : Type) where
  remaining : κ → List α
  drawn : List α

/-- One round over the keys that are left of it, and whether it has drawn anything. -/
def drawRound (budget : Nat) : List κ → Drawing κ α × Bool → Drawing κ α × Bool
  | [], state => state
  | key :: rest, (state, progressed) =>
      if budget ≤ state.drawn.length then (state, progressed)
      else
        match state.remaining key with
        | [] => drawRound budget rest (state, progressed)
        | item :: left =>
            drawRound budget rest
              (⟨Function.update state.remaining key left, state.drawn ++ [item]⟩, true)

theorem length_le_drawRound (budget : Nat) (keys : List κ) (state : Drawing κ α × Bool) :
    state.1.drawn.length ≤ (drawRound budget keys state).1.drawn.length := by
  induction keys generalizing state with
  | nil => exact Nat.le_refl _
  | cons key rest ih =>
      obtain ⟨drawing, progressed⟩ := state
      rw [drawRound]
      split
      · exact Nat.le_refl _
      · split
        · exact ih (drawing, progressed)
        · rename_i item left _
          have more := ih
            (⟨Function.update drawing.remaining key left, drawing.drawn ++ [item]⟩, true)
          rw [List.length_append] at more
          exact Nat.le_of_succ_le more

/-- A round that has drawn something has made what is drawn longer. -/
theorem length_lt_drawRound (budget : Nat) (keys : List κ) (drawing : Drawing κ α)
    (progressed : (drawRound budget keys (drawing, false)).2 = true) :
    drawing.drawn.length < (drawRound budget keys (drawing, false)).1.drawn.length := by
  induction keys with
  | nil => cases progressed
  | cons key rest ih =>
      rw [drawRound] at progressed ⊢
      split
      · rename_i full
        rw [if_pos full] at progressed
        cases progressed
      · rename_i notFull
        rw [if_neg notFull] at progressed
        split
        · rename_i none
          simp only [none] at progressed
          exact ih progressed
        · rename_i item left _
          have more := length_le_drawRound budget rest
            (⟨Function.update drawing.remaining key left, drawing.drawn ++ [item]⟩, true)
          rw [List.length_append] at more
          exact more

theorem drawRound_progressed (budget : Nat) (keys : List κ) (drawing : Drawing κ α) :
    (drawRound budget keys (drawing, true)).2 = true := by
  induction keys generalizing drawing with
  | nil => rfl
  | cons key rest ih =>
      rw [drawRound]
      split
      · rfl
      · split
        · exact ih drawing
        · exact ih _

/-- Rounds until the budget is spent, or a round draws nothing. -/
def drawRounds (budget : Nat) (keys : List κ) (drawing : Drawing κ α) : Drawing κ α :=
  if drawing.drawn.length < budget then
    if (drawRound budget keys (drawing, false)).2 = true then
      drawRounds budget keys (drawRound budget keys (drawing, false)).1
    else (drawRound budget keys (drawing, false)).1
  else drawing
termination_by budget - drawing.drawn.length
decreasing_by
  rename_i below progressed
  have longer := length_lt_drawRound budget keys drawing progressed
  omega

def roundRobin (budget : Nat) (keys : List κ) (pools : κ → List α) : List α :=
  (drawRounds budget keys ⟨pools, []⟩).drawn

/-! ## Turns -/

section Turns

variable (kind : α → κ) (pools : κ → List α)

/-- What has been drawn under a key. -/
def drawnUnder (drawn : List α) (key : κ) : List α :=
  drawn.filter fun item => decide (kind item = key)

def timesDrawn (drawn : List α) (key : κ) : Nat :=
  (drawnUnder kind drawn key).length

theorem drawnUnder_append (drawn : List α) (item : α) (key : κ) :
    drawnUnder kind (drawn ++ [item]) key =
      drawnUnder kind drawn key ++ if kind item = key then [item] else [] := by
  rw [drawnUnder, drawnUnder, List.filter_append]
  by_cases same : kind item = key <;> simp [same]

theorem timesDrawn_append (drawn : List α) (item : α) (key : κ) :
    timesDrawn kind (drawn ++ [item]) key =
      timesDrawn kind drawn key + if kind item = key then 1 else 0 := by
  rw [timesDrawn, drawnUnder_append, List.length_append, timesDrawn]
  by_cases same : kind item = key <;> simp [same]

/-- So many full rounds are over, and some keys have been asked in another one: every key has been
drawn from as often as it was asked, as far as it had something to give. -/
structure Levelled (round : Nat) (asked left : List κ) (drawn : List α) : Prop where
  asked : ∀ key ∈ asked, timesDrawn kind drawn key = min (round + 1) (pools key).length
  left : ∀ key ∈ left, timesDrawn kind drawn key = min round (pools key).length

/-- Keys that are level after the asked ones of a round. -/
def IsLevel (keys : List κ) (drawn : List α) : Prop :=
  ∃ round asked left, keys = asked ++ left ∧ Levelled kind pools round asked left drawn

/-- Of two keys that could both still give, none is ahead by more than one. -/
theorem IsLevel.le_succ {keys : List κ} {drawn : List α} (level : IsLevel kind pools keys drawn)
    {key other : κ} (member : key ∈ keys) (otherMember : other ∈ keys)
    (gives : timesDrawn kind drawn other < (pools other).length) :
    timesDrawn kind drawn key ≤ timesDrawn kind drawn other + 1 := by
  obtain ⟨round, asked, left, rfl, levelled⟩ := level
  have atMost : timesDrawn kind drawn key ≤ round + 1 := by
    rcases List.mem_append.mp member with wasAsked | isLeft
    · rw [levelled.asked key wasAsked]
      exact Nat.min_le_left _ _
    · rw [levelled.left key isLeft]
      exact Nat.le_succ_of_le (Nat.min_le_left _ _)
  have atLeast : round ≤ timesDrawn kind drawn other := by
    rcases List.mem_append.mp otherMember with wasAsked | isLeft
    · have times := levelled.asked other wasAsked
      omega
    · have times := levelled.left other isLeft
      omega
  omega

/-- A drawing that is level, that was level whenever an item was drawn, and that has lost nothing
of the pools. -/
structure Proper (keys : List κ) (budget round : Nat) (asked left : List κ)
    (drawing : Drawing κ α) : Prop where
  order : keys = asked ++ left
  levelled : Levelled kind pools round asked left drawing.drawn
  points : ∀ before, before <+: drawing.drawn → IsLevel kind pools keys before
  kept : ∀ key ∈ keys, drawnUnder kind drawing.drawn key ++ drawing.remaining key = pools key
  ofKeys : ∀ item ∈ drawing.drawn, kind item ∈ keys
  within : drawing.drawn.length ≤ budget

variable {kind pools} {keys asked left : List κ} {key : κ} {budget round : Nat}
  {drawing : Drawing κ α}

theorem Proper.length_add (proper : Proper kind pools keys budget round asked left drawing)
    (member : key ∈ keys) :
    timesDrawn kind drawing.drawn key + (drawing.remaining key).length = (pools key).length := by
  rw [← proper.kept key member, List.length_append]
  rfl

/-- A key whose pool is empty passes its turn. -/
theorem Proper.pass (proper : Proper kind pools keys budget round asked (key :: left) drawing)
    (nothing : drawing.remaining key = []) :
    Proper kind pools keys budget round (asked ++ [key]) left drawing := by
  have member : key ∈ keys := by
    rw [proper.order]
    simp
  have total := proper.length_add member
  have times := proper.levelled.left key (List.mem_cons_self ..)
  rw [nothing, List.length_nil] at total
  refine ⟨by rw [proper.order]; simp, ⟨?_, ?_⟩, proper.points, proper.kept, proper.ofKeys,
    proper.within⟩
  · intro other inAsked
    rcases List.mem_append.mp inAsked with before | now
    · exact proper.levelled.asked other before
    · rw [List.mem_singleton.mp now]
      omega
  · intro other inLeft
    exact proper.levelled.left other (List.mem_cons_of_mem _ inLeft)

/-- A key whose pool is not empty gives its first item. -/
theorem Proper.give (distinct : keys.Nodup)
    (sorted : ∀ key ∈ keys, ∀ item ∈ pools key, kind item = key)
    (proper : Proper kind pools keys budget round asked (key :: left) drawing)
    (notFull : drawing.drawn.length < budget) {item : α} {rest : List α}
    (gives : drawing.remaining key = item :: rest) :
    Proper kind pools keys budget round (asked ++ [key]) left
      ⟨Function.update drawing.remaining key rest, drawing.drawn ++ [item]⟩ := by
  have member : key ∈ keys := by
    rw [proper.order]
    simp
  have isOf : kind item = key := by
    refine sorted key member item ?_
    rw [← proper.kept key member, gives]
    simp
  have total := proper.length_add member
  have times := proper.levelled.left key (List.mem_cons_self ..)
  rw [gives, List.length_cons] at total
  have apart : key ∉ asked ∧ key ∉ left := by
    rw [proper.order, List.nodup_append] at distinct
    have notLater := (List.nodup_cons.mp distinct.2.1).1
    refine ⟨fun inAsked => ?_, notLater⟩
    exact distinct.2.2 key inAsked key (List.mem_cons_self ..) rfl
  have unchanged : ∀ other, other ≠ key →
      timesDrawn kind (drawing.drawn ++ [item]) other = timesDrawn kind drawing.drawn other := by
    intro other differs
    rw [timesDrawn_append, isOf, if_neg (Ne.symm differs)]
    rfl
  have order : keys = (asked ++ [key]) ++ left := by
    rw [proper.order]
    simp
  have levelled : Levelled kind pools round (asked ++ [key]) left (drawing.drawn ++ [item]) := by
    refine ⟨fun other inAsked => ?_, fun other inLeft => ?_⟩
    · rcases List.mem_append.mp inAsked with before | now
      · rw [unchanged other fun same => apart.1 (same ▸ before)]
        exact proper.levelled.asked other before
      · rw [List.mem_singleton.mp now, timesDrawn_append, if_pos isOf]
        omega
    · rw [unchanged other fun same => apart.2 (same ▸ inLeft)]
      exact proper.levelled.left other (List.mem_cons_of_mem _ inLeft)
  refine ⟨order, levelled, ?_, ?_, ?_, ?_⟩
  · intro before isBefore
    rcases List.prefix_concat_iff.mp isBefore with rfl | earlier
    · exact ⟨round, asked ++ [key], left, order, levelled⟩
    · exact proper.points before earlier
  · intro other otherMember
    have held := proper.kept other otherMember
    by_cases same : other = key
    · subst same
      rw [gives] at held
      dsimp only
      rw [drawnUnder_append, if_pos isOf, List.append_assoc, Function.update_self]
      exact held
    · have notOf : kind item ≠ other := fun isOther => same (isOther.symm.trans isOf)
      dsimp only
      rw [drawnUnder_append, if_neg notOf, List.append_nil, Function.update_of_ne same]
      exact held
  · intro other drawnNow
    rcases List.mem_append.mp drawnNow with before | now
    · exact proper.ofKeys other before
    · rw [List.mem_singleton.mp now, isOf]
      exact member
  · rw [List.length_append]
    exact notFull

/-- The keys of a round have all been asked, so the next one begins. -/
theorem Proper.next (proper : Proper kind pools keys budget round keys [] drawing) :
    Proper kind pools keys budget (round + 1) [] keys drawing where
  order := rfl
  levelled := ⟨nofun, proper.levelled.asked⟩
  points := proper.points
  kept := proper.kept
  ofKeys := proper.ofKeys
  within := proper.within

theorem proper_start : Proper kind pools keys budget 0 [] keys ⟨pools, []⟩ := by
  have levelled : Levelled kind pools 0 [] keys [] :=
    ⟨nofun, fun key _ => (Nat.zero_min _).symm⟩
  refine ⟨rfl, levelled, ?_, fun key _ => rfl, nofun, Nat.zero_le _⟩
  intro before isBefore
  rw [List.prefix_nil.mp isBefore]
  exact ⟨0, [], keys, rfl, levelled⟩

/-- A round keeps a drawing proper, and asks every key unless the budget is spent. -/
theorem Proper.drawRound (distinct : keys.Nodup)
    (sorted : ∀ key ∈ keys, ∀ item ∈ pools key, kind item = key) (progressed : Bool)
    (proper : Proper kind pools keys budget round asked left drawing) :
    ∃ asked' left',
      Proper kind pools keys budget round asked' left'
        (Transition.drawRound budget left (drawing, progressed)).1 ∧
      (left' = [] ∨
        (Transition.drawRound budget left (drawing, progressed)).1.drawn.length = budget) := by
  induction left generalizing drawing asked progressed with
  | nil => exact ⟨asked, [], proper, Or.inl rfl⟩
  | cons key rest ih =>
      rw [Transition.drawRound]
      split
      · rename_i full
        exact ⟨asked, key :: rest, proper, Or.inr (Nat.le_antisymm proper.within full)⟩
      · rename_i notFull
        split
        · rename_i nothing
          exact ih progressed (proper.pass nothing)
        · rename_i item more gives
          exact ih true (proper.give distinct sorted (Nat.lt_of_not_le notFull) gives)

/-- A round that draws nothing within the budget has found every pool empty. -/
theorem drawRound_eq_self (notFull : drawing.drawn.length < budget)
    (noProgress : (drawRound budget left (drawing, false)).2 = false) :
    (drawRound budget left (drawing, false)).1 = drawing ∧
      ∀ key ∈ left, drawing.remaining key = [] := by
  induction left with
  | nil => exact ⟨rfl, nofun⟩
  | cons key rest ih =>
      rw [drawRound, if_neg (Nat.not_le_of_lt notFull)] at noProgress ⊢
      split
      · rename_i nothing
        simp only [nothing] at noProgress
        obtain ⟨same, empty⟩ := ih noProgress
        exact ⟨same, List.forall_mem_cons.mpr ⟨nothing, empty⟩⟩
      · rename_i item more gives
        simp only [gives] at noProgress
        have progressed := drawRound_progressed budget rest
          ⟨Function.update drawing.remaining key more, drawing.drawn ++ [item]⟩
        rw [progressed] at noProgress
        cases noProgress

/-- Rounds end with the budget spent or the pools empty. -/
theorem Proper.drawRounds (distinct : keys.Nodup)
    (sorted : ∀ key ∈ keys, ∀ item ∈ pools key, kind item = key)
    (proper : Proper kind pools keys budget round [] keys drawing) :
    ∃ round' asked' left',
      Proper kind pools keys budget round' asked' left'
        (Transition.drawRounds budget keys drawing) ∧
      ((Transition.drawRounds budget keys drawing).drawn.length = budget ∨
        ∀ key ∈ keys, (Transition.drawRounds budget keys drawing).remaining key = []) := by
  induction drawing using Transition.drawRounds.induct budget keys generalizing round with
  | case1 drawing below progressed ih =>
      rw [Transition.drawRounds, if_pos below, if_pos progressed]
      obtain ⟨asked, left, isProper, ended⟩ := proper.drawRound distinct sorted false
      rcases ended with rfl | full
      · have order := isProper.order
        rw [List.append_nil] at order
        subst order
        exact ih isProper.next
      · rw [Transition.drawRounds, if_neg (by rw [full]; exact Nat.lt_irrefl budget)]
        exact ⟨round, asked, left, isProper, Or.inl full⟩
  | case2 drawing below noProgress =>
      rw [Transition.drawRounds, if_pos below, if_neg noProgress]
      obtain ⟨same, empty⟩ := drawRound_eq_self below (Bool.eq_false_iff.mpr noProgress)
      rw [same]
      exact ⟨round, [], keys, proper, Or.inr empty⟩
  | case3 drawing full =>
      rw [Transition.drawRounds, if_neg full]
      exact ⟨round, [], keys, proper,
        Or.inl (Nat.le_antisymm proper.within (Nat.le_of_not_lt full))⟩

/-- Items under distinct keys are as many as there are under each of them. -/
theorem length_eq_sum_timesDrawn (distinct : keys.Nodup) {drawn : List α}
    (ofKeys : ∀ item ∈ drawn, kind item ∈ keys) :
    drawn.length = (keys.map fun key => timesDrawn kind drawn key).sum := by
  have spread := Relational.flatMap_filter_perm distinct drawn fun item => some (kind item)
  have whole : (drawn.filter fun item => decide (∃ key ∈ keys, some (kind item) = some key)) =
      drawn := by
    rw [List.filter_eq_self]
    intro item member
    exact decide_eq_true ⟨kind item, ofKeys item member, rfl⟩
  rw [whole] at spread
  rw [← spread.length_eq, List.length_flatMap]
  simp only [Option.some.injEq]
  rfl

variable (kind pools) in
/-- A sorted choice of pools under distinct keys. -/
structure IsSorted (keys : List κ) : Prop where
  distinct : keys.Nodup
  sorted : ∀ key ∈ keys, ∀ item ∈ pools key, kind item = key

theorem IsSorted.exists_proper (isSorted : IsSorted kind pools keys) (budget : Nat) :
    ∃ round asked left,
      Proper kind pools keys budget round asked left
        (Transition.drawRounds budget keys ⟨pools, []⟩) ∧
      ((Transition.drawRounds budget keys ⟨pools, []⟩).drawn.length = budget ∨
        ∀ key ∈ keys, (Transition.drawRounds budget keys ⟨pools, []⟩).remaining key = []) :=
  proper_start.drawRounds isSorted.distinct isSorted.sorted

/-- As much is drawn as there is within the budget. -/
theorem IsSorted.length_roundRobin (isSorted : IsSorted kind pools keys) (budget : Nat) :
    (roundRobin budget keys pools).length =
      min budget (keys.map fun key => (pools key).length).sum := by
  obtain ⟨round, asked, left, proper, ended⟩ := isSorted.exists_proper budget
  have total := length_eq_sum_timesDrawn isSorted.distinct proper.ofKeys
  have bounded : (keys.map fun key =>
      timesDrawn kind (Transition.drawRounds budget keys ⟨pools, []⟩).drawn key).sum ≤
        (keys.map fun key => (pools key).length).sum := by
    refine List.sum_le_sum fun key member => ?_
    have under := proper.length_add member
    omega
  have within := proper.within
  rw [roundRobin]
  rcases ended with full | empty
  · omega
  · have same : (keys.map fun key =>
        timesDrawn kind (Transition.drawRounds budget keys ⟨pools, []⟩).drawn key) =
          keys.map fun key => (pools key).length := by
      refine List.map_congr_left fun key member => ?_
      have under := proper.length_add member
      rw [empty key member, List.length_nil] at under
      exact under
    rw [same] at total
    omega

/-- What is drawn under a key is the beginning of its pool. -/
theorem IsSorted.drawnUnder_prefix (isSorted : IsSorted kind pools keys) (budget : Nat)
    (member : key ∈ keys) : drawnUnder kind (roundRobin budget keys pools) key <+: pools key := by
  obtain ⟨round, asked, left, proper, _⟩ := isSorted.exists_proper budget
  exact ⟨_, proper.kept key member⟩

theorem IsSorted.kind_mem (isSorted : IsSorted kind pools keys) {item : α}
    (isDrawn : item ∈ roundRobin budget keys pools) : kind item ∈ keys := by
  obtain ⟨round, asked, left, proper, _⟩ := isSorted.exists_proper budget
  exact proper.ofKeys item isDrawn

/-- At every point, of two keys that could both still give none is ahead by more than one. -/
theorem IsSorted.isLevel_of_prefix (isSorted : IsSorted kind pools keys) {before : List α}
    (isBefore : before <+: roundRobin budget keys pools) : IsLevel kind pools keys before := by
  obtain ⟨round, asked, left, proper, _⟩ := isSorted.exists_proper budget
  exact proper.points before isBefore

end Turns

end AgentRank.Transition
