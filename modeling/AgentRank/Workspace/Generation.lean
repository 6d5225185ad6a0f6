import AgentRank.Transition.RoundRobin
import AgentRank.Workspace.Definitions

/-!
# Generating a suite from what the catalog agreed with

This module models the part of `workspace/generation.py` that chooses missions: accepted proposals
are collected up to a limit for each family, missions are drawn from the families in turns, and
what was drawn is numbered and counted.  Which missions a family proposes, and whether the catalog
agrees with one, is given.
-/

namespace AgentRank.Workspace

open Benchmark Transition

def maxMissionsPerFamily : Nat := 3

/-- One proposal that the catalog agreed with, with its oracle. -/
structure Resolved where
  family : MissionFamily
  brief : AgentMissionBrief
  oracle : MissionOracle
  worthBounded : oracle.simulatedValueAmountMinor ≤ brief.budget.amountMinor

/-- The proposals of every family in their order, and which of them the catalog agrees with. -/
structure Proposals (γ : Type) where
  proposed : MissionFamily → List γ
  agreed : γ → Option Resolved
  ofFamily : ∀ family, ∀ proposal ∈ proposed family, ∀ resolved,
    agreed proposal = some resolved → resolved.family = family

/-- The loop of `_resolved`: proposals are asked until so many are accepted. -/
def resolvedFrom {γ : Type} (agreed : γ → Option Resolved) :
    List Resolved → List γ → List Resolved
  | accepted, [] => accepted
  | accepted, proposal :: rest =>
      let longer := accepted ++ (agreed proposal).toList
      if longer.length = maxMissionsPerFamily then longer else resolvedFrom agreed longer rest

section Drawn

variable {γ : Type} (proposals : Proposals γ)

def Proposals.resolved (family : MissionFamily) : List Resolved :=
  resolvedFrom proposals.agreed [] (proposals.proposed family)

/-- Every proposal of a family that the catalog agrees with. -/
def Proposals.accepted (family : MissionFamily) : List Resolved :=
  (proposals.proposed family).filterMap proposals.agreed

/-- `_drawn`. -/
def Proposals.drawn (budget : Nat) : List Resolved :=
  roundRobin budget familyOrder proposals.resolved

end Drawn

inductive GenerationError
  | noMissionFamily
  | invalidKey (key : String)

/-- An entry as the mission of a key. -/
def Resolved.keyed (entry : Resolved) (key : String) (isKey : isKey key = true) :
    BenchmarkMissionDefinition where
  brief := { entry.brief with key := key, isKey := isKey }
  oracle := entry.oracle
  worthBounded := entry.worthBounded

def Resolved.named (entry : Resolved) (key : String) :
    Except GenerationError BenchmarkMissionDefinition :=
  if isKey : isKey key = true then .ok (entry.keyed key isKey) else .error (.invalidKey key)

/-- Missions are numbered within their family. -/
def numberedFrom (counters : MissionFamily → Nat) :
    List Resolved → Except GenerationError (List (MissionFamily × BenchmarkMissionDefinition))
  | [] => .ok []
  | entry :: rest => do
      let ordinal := counters entry.family + 1
      let mission ← entry.named (missionKey entry.family ordinal)
      let others ← numberedFrom (Function.update counters entry.family ordinal) rest
      return (entry.family, mission) :: others

/-- The missions of `generate_suite`. -/
def Proposals.missions {γ : Type} (proposals : Proposals γ) (budget : Nat) :
    Except GenerationError (List (MissionFamily × BenchmarkMissionDefinition)) :=
  match proposals.drawn budget with
  | [] => .error .noMissionFamily
  | drawn => numberedFrom (fun _ => 0) drawn

def isAvailable (mission : MissionFamily × BenchmarkMissionDefinition) : Bool :=
  decide (mission.2.oracle.expectedOutcome = .purchaseAvailable)

/-- The missions of one family. -/
def builtFor (missions : List (MissionFamily × BenchmarkMissionDefinition))
    (family : MissionFamily) : List (MissionFamily × BenchmarkMissionDefinition) :=
  missions.filter fun mission => decide (mission.1 = family)

/-- What the suite holds of one family, where it holds something. -/
def familyComposition (missions : List (MissionFamily × BenchmarkMissionDefinition))
    (family : MissionFamily) : Option FamilyComposition :=
  let built := builtFor missions family
  if built = [] then none
  else
    some
      { family := family
        missions := built.length
        purchaseAvailable := built.countP isAvailable
        noAcceptablePurchase := built.length - built.countP isAvailable }

/-- `_composition`. -/
def composition (missions : List (MissionFamily × BenchmarkMissionDefinition)) :
    List FamilyComposition :=
  familyOrder.filterMap (familyComposition missions)

theorem resolvedFrom_eq_take {γ : Type} (agreed : γ → Option Resolved) (accepted : List Resolved)
    (proposals : List γ) (notFull : accepted.length < maxMissionsPerFamily) :
    resolvedFrom agreed accepted proposals =
      (accepted ++ proposals.filterMap agreed).take maxMissionsPerFamily := by
  induction proposals generalizing accepted with
  | nil =>
      rw [resolvedFrom, List.filterMap_nil, List.append_nil,
        List.take_of_length_le (Nat.le_of_lt notFull)]
  | cons proposal rest ih =>
      have more : (proposal :: rest).filterMap agreed =
          (agreed proposal).toList ++ rest.filterMap agreed := by
        cases found : agreed proposal with
        | none => exact List.filterMap_cons_none found
        | some resolved => exact List.filterMap_cons_some found
      have atMost : (agreed proposal).toList.length ≤ 1 := by
        cases agreed proposal <;> simp
      rw [resolvedFrom, more, ← List.append_assoc]
      split
      · rename_i isFull
        rw [List.take_left' isFull]
      · rename_i notYet
        refine ih _ ?_
        rw [List.length_append] at notYet ⊢
        omega

section Resolved

variable {γ : Type} (proposals : Proposals γ)

theorem Proposals.resolved_eq_take (family : MissionFamily) :
    proposals.resolved family = (proposals.accepted family).take maxMissionsPerFamily :=
  resolvedFrom_eq_take proposals.agreed [] (proposals.proposed family) (by decide)

theorem Proposals.length_resolved (family : MissionFamily) :
    (proposals.resolved family).length =
      min (proposals.accepted family).length maxMissionsPerFamily := by
  rw [proposals.resolved_eq_take, List.length_take, Nat.min_comm]

/-- The accepted proposals of the families are sorted by their own family. -/
theorem Proposals.isSorted : IsSorted Resolved.family proposals.resolved familyOrder where
  distinct := familyOrder_nodup
  sorted := by
    intro family _ resolved member
    rw [proposals.resolved_eq_take] at member
    obtain ⟨proposal, proposed, agreed⟩ := List.mem_filterMap.mp (List.mem_of_mem_take member)
    exact proposals.ofFamily family proposal proposed resolved agreed

/-- No family gives more than it may. -/
theorem Proposals.timesDrawn_le (budget : Nat) (family : MissionFamily) :
    timesDrawn Resolved.family (proposals.drawn budget) family ≤ maxMissionsPerFamily := by
  by_cases member : family ∈ familyOrder
  · have isPrefix := (proposals.isSorted.drawnUnder_prefix budget member).length_le
    rw [proposals.length_resolved] at isPrefix
    exact isPrefix.trans (Nat.min_le_right _ _)
  · have none : drawnUnder Resolved.family (proposals.drawn budget) family = [] := by
      rw [drawnUnder, List.filter_eq_nil_iff]
      intro resolved isDrawn same
      exact member (of_decide_eq_true same ▸ proposals.isSorted.kind_mem isDrawn)
    rw [timesDrawn, none]
    exact Nat.zero_le _

end Resolved

/-! ## What is numbered -/

/-- The numbers that entries get, one by one. -/
def ordinals (counters : MissionFamily → Nat) : List Resolved → List (MissionFamily × Nat)
  | [] => []
  | entry :: rest =>
      (entry.family, counters entry.family + 1) ::
        ordinals (Function.update counters entry.family (counters entry.family + 1)) rest

section Numbered

variable {counters : MissionFamily → Nat} {entries : List Resolved}

/-- A number comes after those that were given before, and counts the missions of its family. -/
theorem bounds_of_mem_ordinals {numbered : MissionFamily × Nat}
    (member : numbered ∈ ordinals counters entries) :
    counters numbered.1 < numbered.2 ∧
      numbered.2 ≤ counters numbered.1 + timesDrawn Resolved.family entries numbered.1 := by
  induction entries generalizing counters with
  | nil => cases member
  | cons entry rest ih =>
      have times : timesDrawn Resolved.family (entry :: rest) numbered.1 =
          (if entry.family = numbered.1 then 1 else 0) +
            timesDrawn Resolved.family rest numbered.1 := by
        rw [timesDrawn, drawnUnder, timesDrawn, drawnUnder]
        by_cases same : entry.family = numbered.1 <;> simp [same, Nat.add_comm]
      rw [ordinals] at member
      rcases List.mem_cons.mp member with rfl | later
      · rw [times, if_pos rfl]
        dsimp only
        omega
      · have bounds := ih later
        rw [times]
        by_cases same : numbered.1 = entry.family
        · rw [same, Function.update_self] at bounds
          rw [same, if_pos rfl]
          omega
        · rw [Function.update_of_ne same] at bounds
          rw [if_neg (Ne.symm same)]
          omega

theorem nodup_ordinals : (ordinals counters entries).Nodup := by
  induction entries generalizing counters with
  | nil => exact List.nodup_nil
  | cons entry rest ih =>
      rw [ordinals, List.nodup_cons]
      refine ⟨fun member => ?_, ih⟩
      have after := (bounds_of_mem_ordinals member).1
      dsimp only at after
      rw [Function.update_self] at after
      exact Nat.lt_irrefl _ after

end Numbered

/-- The families and the numbers that a mission key is built of. -/
def keyParts : List (MissionFamily × Nat) :=
  [.categoryPurchase, .budgetConstrainedPurchase, .multiUnitPurchase, .specificationPurchase,
    .budgetAbstention, .stockAbstention, .unavailableAbstention, .specificationAbstention,
    .policyConstraint].flatMap fun family => [(family, 1), (family, 2), (family, 3)]

theorem mem_keyParts {family : MissionFamily} {ordinal : Nat} (positive : 0 < ordinal)
    (bounded : ordinal ≤ maxMissionsPerFamily) : (family, ordinal) ∈ keyParts := by
  have one : ordinal = 1 ∨ ordinal = 2 ∨ ordinal = 3 := by
    rw [maxMissionsPerFamily] at bounded
    omega
  rcases one with rfl | rfl | rfl <;> cases family <;> decide

theorem keyParts_isKey : (keyParts.all fun parts => isKey (missionKey parts.1 parts.2)) = true := by
  decide +kernel

theorem keyParts_nodup : (keyParts.map fun parts => missionKey parts.1 parts.2).Nodup := by
  decide +kernel

/-- Entries are numbered as they come, each under the key of its number. -/
theorem numberedFrom_eq_ok (counters : MissionFamily → Nat) (entries : List Resolved)
    (fits : ∀ parts ∈ ordinals counters entries, parts ∈ keyParts) :
    ∃ missions, numberedFrom counters entries = .ok missions ∧
      missions.map Prod.fst = entries.map Resolved.family ∧
      (missions.map fun mission => mission.2.key) =
        (ordinals counters entries).map (fun parts => missionKey parts.1 parts.2) ∧
      (missions.map fun mission => mission.2.oracle) = entries.map Resolved.oracle := by
  induction entries generalizing counters with
  | nil => exact ⟨[], rfl, rfl, rfl, rfl⟩
  | cons entry rest ih =>
      rw [ordinals] at fits
      obtain ⟨others, numbered, families, keys, oracles⟩ :=
        ih _ fun parts member => fits parts (List.mem_cons_of_mem _ member)
      have valid := List.all_eq_true.mp keyParts_isKey _ (fits _ (List.mem_cons_self ..))
      have named : entry.named (missionKey entry.family (counters entry.family + 1)) =
          .ok (entry.keyed _ valid) :=
        dif_pos valid
      refine ⟨(entry.family, entry.keyed _ valid) :: others, ?_, ?_, ?_, ?_⟩
      · rw [numberedFrom]
        simp only [named, numbered, bind, Except.bind]
        rfl
      · rw [List.map_cons, families]
        rfl
      · rw [List.map_cons, keys]
        rfl
      · rw [List.map_cons, oracles]
        rfl

section Counted

variable {missions : List (MissionFamily × BenchmarkMissionDefinition)}

theorem familyComposition_eq_some_iff {family : MissionFamily} {entry : FamilyComposition} :
    familyComposition missions family = some entry ↔
      builtFor missions family ≠ [] ∧
        entry = { family := family
                  missions := (builtFor missions family).length
                  purchaseAvailable := (builtFor missions family).countP isAvailable
                  noAcceptablePurchase :=
                    (builtFor missions family).countP fun mission => !isAvailable mission } := by
  have others : (builtFor missions family).length - (builtFor missions family).countP isAvailable =
      (builtFor missions family).countP fun mission => !isAvailable mission := by
    have split := List.length_eq_countP_add_countP isAvailable (l := builtFor missions family)
    simp only [Bool.not_eq_true, Bool.decide_eq_false] at split
    omega
  rw [familyComposition]
  split
  · rename_i empty
    exact iff_of_false nofun fun held => held.1 empty
  · rename_i built
    rw [others, Option.some.injEq]
    exact ⟨fun same => ⟨built, same.symm⟩, fun held => held.2.symm⟩

/-- The missions that have a property, family by family. -/
theorem sum_countP_builtFor (ofOrder : ∀ mission ∈ missions, mission.1 ∈ familyOrder)
    (counts : MissionFamily × BenchmarkMissionDefinition → Bool) :
    (familyOrder.map fun family => (builtFor missions family).countP counts).sum =
      missions.countP counts := by
  have counted : ∀ mission ∈ missions.filter counts, mission.1 ∈ familyOrder :=
    fun mission member => ofOrder mission (List.mem_of_mem_filter member)
  have total := length_eq_sum_timesDrawn familyOrder_nodup counted
  rw [← List.countP_eq_length_filter] at total
  rw [total]
  refine congrArg List.sum (List.map_congr_left fun family _ => ?_)
  rw [List.countP_eq_length_filter, timesDrawn, drawnUnder, builtFor, List.filter_filter,
    List.filter_filter]
  simp only [Bool.and_comm]

/-- A figure of the composition adds up to what it is of the suite. -/
theorem sum_composition (ofOrder : ∀ mission ∈ missions, mission.1 ∈ familyOrder)
    {figure : FamilyComposition → Nat} {counts : MissionFamily × BenchmarkMissionDefinition → Bool}
    (figured : ∀ family entry, familyComposition missions family = some entry →
      figure entry = (builtFor missions family).countP counts) :
    ((composition missions).map figure).sum = missions.countP counts := by
  rw [← sum_countP_builtFor ofOrder, composition]
  induction familyOrder with
  | nil => rfl
  | cons family rest ih =>
      rw [List.map_cons, List.sum_cons, ← ih]
      cases found : familyComposition missions family with
      | none =>
          have empty : builtFor missions family = [] := by
            rw [familyComposition] at found
            by_contra built
            rw [if_neg built] at found
            cases found
          rw [List.filterMap_cons_none found, empty, List.countP_nil, Nat.zero_add]
      | some entry =>
          rw [List.filterMap_cons_some found, List.map_cons, List.sum_cons,
            figured family entry found]

end Counted

/-! ## The suite -/

section Suite

variable {γ : Type} (proposals : Proposals γ) (budget : Nat)

/-- A family could still give a mission after some were drawn. -/
def Proposals.StillGives (before : List Resolved) (family : MissionFamily) : Prop :=
  timesDrawn Resolved.family before family < (proposals.resolved family).length

/-- A suite of what was drawn: numbered apart, and counted in full. -/
structure Proposals.IsSuite (missions : List (MissionFamily × BenchmarkMissionDefinition)) :
    Prop where
  families : missions.map Prod.fst = (proposals.drawn budget).map Resolved.family
  oracles : (missions.map fun mission => mission.2.oracle) =
    (proposals.drawn budget).map Resolved.oracle
  keysNodup : (missions.map fun mission => mission.2.key).Nodup
  missionsCounted : ((composition missions).map FamilyComposition.missions).sum = missions.length
  availableCounted : ((composition missions).map FamilyComposition.purchaseAvailable).sum =
    missions.countP isAvailable
  otherCounted : ((composition missions).map FamilyComposition.noAcceptablePurchase).sum =
    missions.countP fun mission => !isAvailable mission
  familyCounted : ∀ entry ∈ composition missions,
    entry.missions = timesDrawn Resolved.family (proposals.drawn budget) entry.family ∧
      entry.purchaseAvailable + entry.noAcceptablePurchase = entry.missions

theorem Proposals.ordinals_fit :
    ∀ parts ∈ ordinals (fun _ => 0) (proposals.drawn budget), parts ∈ keyParts := by
  intro parts member
  have bounds := bounds_of_mem_ordinals member
  have atMost := proposals.timesDrawn_le budget parts.1
  exact mem_keyParts (by omega) (by omega)

theorem timesDrawn_map_fst {missions : List (MissionFamily × BenchmarkMissionDefinition)}
    {entries : List Resolved} (families : missions.map Prod.fst = entries.map Resolved.family)
    (family : MissionFamily) :
    (builtFor missions family).length = timesDrawn Resolved.family entries family := by
  have counted := congrArg (List.countP fun other => decide (other = family)) families
  rw [List.countP_map, List.countP_map] at counted
  rw [builtFor, timesDrawn, drawnUnder, ← List.countP_eq_length_filter,
    ← List.countP_eq_length_filter]
  exact counted

theorem Proposals.missions_eq_ok (drawn : proposals.drawn budget ≠ []) :
    ∃ missions, proposals.missions budget = .ok missions ∧ proposals.IsSuite budget missions := by
  obtain ⟨missions, numbered, families, keys, oracles⟩ :=
    numberedFrom_eq_ok (fun _ => 0) (proposals.drawn budget) (proposals.ordinals_fit budget)
  have ofOrder : ∀ mission ∈ missions, mission.1 ∈ familyOrder := by
    intro mission member
    have inDrawn : mission.1 ∈ (proposals.drawn budget).map Resolved.family :=
      families ▸ List.mem_map_of_mem member
    obtain ⟨entry, isDrawn, same⟩ := List.mem_map.mp inDrawn
    exact same ▸ proposals.isSorted.kind_mem isDrawn
  have figures : ∀ family entry, familyComposition missions family = some entry → entry = _ :=
    fun _ _ found => (familyComposition_eq_some_iff.mp found).2
  refine ⟨missions, ?_, families, oracles, ?_, ?_, ?_, ?_, ?_⟩
  · rw [Proposals.missions]
    split
    · rename_i nothing
      exact absurd nothing drawn
    · exact numbered
  · rw [keys]
    refine List.Nodup.map_on ?_ nodup_ordinals
    intro first firstIn second secondIn same
    exact List.inj_on_of_nodup_map keyParts_nodup
      (proposals.ordinals_fit budget first firstIn) (proposals.ordinals_fit budget second secondIn)
      same
  · refine (sum_composition ofOrder fun family entry found => ?_).trans
      (congrFun List.countP_true missions)
    rw [figures family entry found, List.countP_true]
  · refine sum_composition ofOrder fun family entry found => ?_
    rw [figures family entry found]
  · refine sum_composition ofOrder fun family entry found => ?_
    rw [figures family entry found]
  · intro entry member
    obtain ⟨family, _, found⟩ := List.mem_filterMap.mp member
    have split := List.length_eq_countP_add_countP isAvailable (l := builtFor missions family)
    simp only [Bool.not_eq_true, Bool.decide_eq_false] at split
    rw [figures family entry found]
    exact ⟨timesDrawn_map_fst families family, split.symm⟩

/-- As many missions are drawn as the families give within the budget, no family gives more than
its limit, and at every point none of two that could still give is ahead by more than one.  A suite
is refused only where there is nothing to draw, and otherwise it has no key twice and its
composition adds up. -/
theorem draw_exact_fair :
    (proposals.drawn budget).length =
        min budget (familyOrder.map fun family =>
          min (proposals.accepted family).length maxMissionsPerFamily).sum ∧
      (∀ family, timesDrawn Resolved.family (proposals.drawn budget) family ≤
        maxMissionsPerFamily) ∧
      (∀ before, before <+: proposals.drawn budget →
        ∀ family ∈ familyOrder, ∀ other ∈ familyOrder,
          proposals.StillGives before family → proposals.StillGives before other →
            timesDrawn Resolved.family before family ≤
              timesDrawn Resolved.family before other + 1) ∧
      (proposals.drawn budget = [] ∧ proposals.missions budget = .error .noMissionFamily ∨
        ∃ missions, proposals.missions budget = .ok missions ∧
          proposals.IsSuite budget missions) := by
  refine ⟨?_, proposals.timesDrawn_le budget, ?_, ?_⟩
  · rw [Proposals.drawn, proposals.isSorted.length_roundRobin]
    simp only [proposals.length_resolved]
  · intro before isBefore family member other otherMember _ gives
    exact IsLevel.le_succ _ _ (proposals.isSorted.isLevel_of_prefix isBefore) member otherMember
      gives
  · by_cases nothing : proposals.drawn budget = []
    · refine Or.inl ⟨nothing, ?_⟩
      rw [Proposals.missions, nothing]
    · exact Or.inr (proposals.missions_eq_ok budget nothing)

end Suite

end AgentRank.Workspace
