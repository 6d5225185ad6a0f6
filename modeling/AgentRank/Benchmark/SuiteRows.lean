import AgentRank.Auth.Tokens
import AgentRank.Benchmark.DefinitionPayload

/-!
# Suites as they are stored

This module models `benchmark/identity.py`, the rows of `benchmark/models.py` that hold a suite,
and the suite half of `benchmark/repository.py`: a definition is written as rows under its
digest, and rows are read back through the checks of a definition.

A JSON column holds what the text that was sent means, and lists the fields of its objects in an
order of its own.  A statement that the database refuses stores nothing.
-/

namespace AgentRank.Benchmark

open Auth Constraints Relational Representation Store Text

def ExpectedOutcome.value : ExpectedOutcome → String
  | purchaseAvailable => "PURCHASE_AVAILABLE"
  | noAcceptablePurchase => "NO_ACCEPTABLE_PURCHASE"

def MissionOracle.toPayload (oracle : MissionOracle) : Json :=
  .object
    [("expected_outcome", Payload.text oracle.expectedOutcome.value),
      ("simulated_value_amount_minor", Payload.number oracle.simulatedValueAmountMinor)]

def BenchmarkMissionDefinition.toPayload (mission : BenchmarkMissionDefinition) : Json :=
  .object [("brief", mission.brief.toPayload), ("oracle", mission.oracle.toPayload)]

/-- `canonical_payload`.  The name of a suite is no part of what it measures. -/
def canonicalPayload (definition : BenchmarkSuiteDefinition) : Json :=
  .object
    [("key", Payload.text definition.key), ("version", Payload.number definition.version),
      ("merchant_slug", Payload.text definition.merchantSlug),
      ("missions", .array (definition.missions.map BenchmarkMissionDefinition.toPayload))]

/-- `canonical_json`. -/
def canonicalJson (payload : Json) : Option String :=
  dumps compact (sortKeys payload)

/-- `suite_content_hash`. -/
def suiteContentHash [Sha256] (definition : BenchmarkSuiteDefinition) : Option String :=
  (canonicalJson (canonicalPayload definition)).map fun text =>
    "sha256:" ++ String.ofList (Sha256.hexdigest text).chars

/-- How the database lists the fields of an object. -/
class ColumnOrder where
  reorder : List (String × Json) → List (String × Json)
  perm : ∀ fields, (reorder fields).Perm fields

section Columns

variable [ColumnOrder]

mutual

/-- A JSON value as a column gives it back. -/
def columnValue : Json → Json
  | .null => .null
  | .scalar value => .scalar value
  | .array items => .array (columnItems items)
  | .object fields => .object (ColumnOrder.reorder (columnFields fields))

def columnItems : List Json → List Json
  | [] => []
  | item :: rest => columnValue item :: columnItems rest

def columnFields : List (String × Json) → List (String × Json)
  | [] => []
  | (name, value) :: rest => (name, columnValue value) :: columnFields rest

end

/-- What a column holds of a value that was written to it as text. -/
def jsonColumn (value : Json) : Option Json := do
  let text ← dumps spaced value
  let read ← (loads text).toOption
  return columnValue read

theorem columnItems_eq_map (items : List Json) : columnItems items = items.map columnValue := by
  induction items with
  | nil => rfl
  | cons item rest ih => rw [columnItems, ih, List.map_cons]

/-- A column holds what was written. -/
theorem jsonColumn_eq {value held : Json} (distinct : DistinctKeys value)
    (isHeld : jsonColumn value = some held) : held = columnValue value := by
  obtain ⟨text, written, isRead⟩ := Option.bind_eq_some_iff.mp isHeld
  rw [loads_dumps distinct written] at isRead
  cases isRead
  rfl

/-- A column holds what has a text. -/
theorem jsonColumn_isSome {value : Json} (distinct : DistinctKeys value) :
    (jsonColumn value).isSome = (dumps spaced value).isSome := by
  unfold jsonColumn
  cases written : dumps spaced value with
  | none => rfl
  | some text => simp [loads_dumps distinct written, Except.toOption]

/-- The order of the fields does not matter to who looks for one. -/
theorem lookup_reorder {fields : List (String × Json)} (keys : (fields.map Prod.fst).Nodup)
    (name : String) : (ColumnOrder.reorder fields).lookup name = fields.lookup name := by
  have perm := ColumnOrder.perm fields
  have distinct : ((ColumnOrder.reorder fields).map Prod.fst).Nodup :=
    (perm.map Prod.fst).nodup_iff.mpr keys
  apply Option.ext
  intro value
  rw [Mapping.lookup_eq_some_iff distinct, Mapping.lookup_eq_some_iff keys, perm.mem_iff]

theorem columnValue_toStoredValue (value : ConstraintValue) :
    columnValue value.toStoredValue = value.toStoredValue := by
  cases value with
  | single scalar => rfl
  | tuple members =>
      rw [ConstraintValue.toStoredValue, columnValue, columnItems_eq_map, List.map_map]
      rfl

/-- The values of a constraint are no objects, so a column keeps them. -/
theorem columnFields_constraint (constraint : HardConstraint) :
    columnFields constraint.fields = constraint.fields := by
  cases constraint with
  | requiredAttribute name operator value =>
      simp only [HardConstraint.fields, columnFields, columnValue_toStoredValue]
      rfl
  | maxTotalAmount | maxQuantity | allowedCategory => rfl

theorem hardConstraintFromPayload_column (constraint : Made HardConstraint) :
    hardConstraintFromPayload (columnValue constraint.fields.toPayload) = .ok constraint := by
  rw [HardConstraint.toPayload, columnValue, columnFields_constraint]
  exact hardConstraintFromPayload_object constraint
    (lookup_reorder (keysNodup_fields constraint.fields))

end Columns

/-! ## Rows -/

/-- A mission, as a row. -/
structure BenchmarkMission where
  missionKey : String
  ordinal : Nat
  objective : String
  quantity : Int
  budgetAmountMinor : Int
  currency : String
  hardConstraints : Json
  preferences : Json
  expectedOutcome : ExpectedOutcome
  simulatedValueAmountMinor : Int

/-- A suite, as a row with the rows of its missions. -/
structure BenchmarkSuite where
  suiteKey : String
  version : Int
  merchantSlug : String
  name : String
  definitionHash : String
  missions : List BenchmarkMission

/-- `BenchmarkMission.to_brief`. -/
def BenchmarkMission.toBrief (row : BenchmarkMission) : Except ReadError AgentMissionBrief := do
  let hardConstraints ← iterationOf row.hardConstraints
  let preferences ← iterationOf row.preferences
  AgentMissionBrief.fromPayload (.object
    [("key", Payload.text row.missionKey), ("objective", Payload.text row.objective),
      ("quantity", wholeNumber row.quantity),
      ("budget", .object
        [("kind", Payload.text "max_total_amount"),
          ("amount_minor", wholeNumber row.budgetAmountMinor),
          ("currency", Payload.text row.currency)]),
      ("hard_constraints", .array hardConstraints), ("preferences", .array preferences)])

/-- `MissionOracle(...)`. -/
def oracleOf (expectedOutcome : ExpectedOutcome) (simulatedValueAmountMinor : Int) :
    Except ReadError MissionOracle :=
  if simulatedValueAmountMinor < 0 then refuse "simulated value must not be negative" none
  else if shape : expectedOutcome = .purchaseAvailable ↔
      0 < simulatedValueAmountMinor.toNat then
    .ok ⟨expectedOutcome, simulatedValueAmountMinor.toNat, shape⟩
  else
    match expectedOutcome with
    | .purchaseAvailable =>
        refuse "a mission with an available purchase must carry a positive value" none
    | .noAcceptablePurchase =>
        refuse "a mission with no acceptable purchase carries no simulated value" none

/-- `BenchmarkMissionDefinition(...)`. -/
def missionOf (brief : AgentMissionBrief) (oracle : MissionOracle) :
    Except ReadError BenchmarkMissionDefinition :=
  if bounded : oracle.simulatedValueAmountMinor ≤ brief.budget.amountMinor then
    .ok ⟨brief, oracle, bounded⟩
  else
    refuse s!"a mission cannot be worth more than its budget: {oracle.simulatedValueAmountMinor} against {brief.budget.amountMinor} {brief.currency}" none

/-- `BenchmarkMission.to_definition`. -/
def BenchmarkMission.toDefinition (row : BenchmarkMission) :
    Except ReadError BenchmarkMissionDefinition := do
  let brief ← row.toBrief
  let oracle ← oracleOf row.expectedOutcome row.simulatedValueAmountMinor
  missionOf brief oracle

/-- `BenchmarkSuiteDefinition(...)`. -/
theorem isKey_val (key : { key : String // isKey key = true }) : isKey key.val = true :=
  key.property

def suiteOf (key : String) (version : Int) (merchantSlug name : String)
    (missions : List BenchmarkMissionDefinition) : Except ReadError BenchmarkSuiteDefinition := do
  let key ← keyOf "suite key" (Payload.text key)
  let merchantSlug ← keyOf "merchant slug" (Payload.text merchantSlug)
  if positive : 1 ≤ version.toNat then
    if stated : isBlank name = false then
      if bounded : name.length ≤ maxNameLength then
        if present : missions ≠ [] then
          if missionsBounded : missions.length ≤ maxMissions then
            if unique : (missions.map BenchmarkMissionDefinition.key).Nodup then
              return {
                key := key.val
                version := version.toNat
                merchantSlug := merchantSlug.val
                name := name
                missions := missions
                isKey := isKey_val key
                isSlug := isKey_val merchantSlug
                versionPositive := positive
                nameStated := stated
                nameBounded := bounded
                missionsPresent := present
                missionsBounded := missionsBounded
                keysNodup := unique }
            else refuse "mission keys must be unique within a suite" none
          else refuse s!"a suite may hold at most {maxMissions} missions" none
        else refuse "a suite must hold at least one mission" none
      else refuse s!"suite name must be at most {maxNameLength} characters" none
    else refuse "suite name must not be blank" none
  else refuse s!"suite version must be at least 1, got {version}" none

/-- `BenchmarkSuite.to_definition`. -/
def BenchmarkSuite.toDefinition (row : BenchmarkSuite) :
    Except ReadError BenchmarkSuiteDefinition := do
  let missions ← row.missions.mapM BenchmarkMission.toDefinition
  suiteOf row.suiteKey row.version row.merchantSlug row.name missions

/-- The missions of a suite are loaded in the order of their places. -/
def BenchmarkSuite.loaded (row : BenchmarkSuite) (rows : List BenchmarkMission) : BenchmarkSuite :=
  { row with missions := (KeyOrder.natural Nat).sortBy BenchmarkMission.ordinal rows }

section Repository

variable [Sha256] [ColumnOrder]

/-- The row of a mission at its place. -/
def missionRow (mission : BenchmarkMissionDefinition) (ordinal : Nat) : Option BenchmarkMission := do
  let hardConstraints ←
    jsonColumn (.array (mission.brief.hardConstraints.map HardConstraint.toPayload))
  let preferences ← jsonColumn (.array (mission.brief.preferences.map Payload.text))
  return {
    missionKey := mission.key
    ordinal := ordinal
    objective := mission.brief.objective
    quantity := mission.brief.quantity
    budgetAmountMinor := mission.brief.budget.amountMinor
    currency := mission.brief.budget.currency
    hardConstraints := hardConstraints
    preferences := preferences
    expectedOutcome := mission.oracle.expectedOutcome
    simulatedValueAmountMinor := mission.oracle.simulatedValueAmountMinor }

/-- The rows of missions, from a place on. -/
def missionRows : Nat → List BenchmarkMissionDefinition → Option (List BenchmarkMission)
  | _, [] => some []
  | ordinal, mission :: rest => do
      let row ← missionRow mission ordinal
      let rows ← missionRows (ordinal + 1) rest
      return row :: rows

/-- `BenchmarkSuiteRepository.create`. -/
def BenchmarkSuiteRepository.create (definition : BenchmarkSuiteDefinition) : Option BenchmarkSuite := do
  let definitionHash ← suiteContentHash definition
  let missions ← missionRows 0 definition.missions
  return {
    suiteKey := definition.key
    version := definition.version
    merchantSlug := definition.merchantSlug
    name := definition.name
    definitionHash := definitionHash
    missions := missions }

/-- What reading a suite may raise. -/
inductive SuiteRaised
  | unreadable (error : ReadError)
  | unwritable
  | corrupted (label stored actual : String)

/-- `_verified`. -/
def BenchmarkSuiteRepository.verified (suite : BenchmarkSuite) : Except SuiteRaised BenchmarkSuite := do
  let definition ← suite.toDefinition.mapError SuiteRaised.unreadable
  match suiteContentHash definition with
  | none => .error .unwritable
  | some actual =>
      if actual = suite.definitionHash then return suite
      else
        .error
          (.corrupted s!"{suite.suiteKey}@{suite.version}" suite.definitionHash actual)

/-! ## What is stored is read back -/

section ReadBack

variable {mission : BenchmarkMissionDefinition} {row : BenchmarkMission} {ordinal : Nat}

omit [Sha256] in
theorem missionRow_eq_some (isStored : missionRow mission ordinal = some row) :
    row =
      { missionKey := mission.key
        ordinal := ordinal
        objective := mission.brief.objective
        quantity := mission.brief.quantity
        budgetAmountMinor := mission.brief.budget.amountMinor
        currency := mission.brief.budget.currency
        hardConstraints := .array (mission.brief.hardConstraints.map fun constraint =>
          columnValue constraint.toPayload)
        preferences := .array (mission.brief.preferences.map Payload.text)
        expectedOutcome := mission.oracle.expectedOutcome
        simulatedValueAmountMinor := mission.oracle.simulatedValueAmountMinor } := by
  obtain ⟨hardConstraints, constraintsHeld, isStored⟩ := Option.bind_eq_some_iff.mp isStored
  obtain ⟨preferences, preferencesHeld, isStored⟩ := Option.bind_eq_some_iff.mp isStored
  have constraintsEq := jsonColumn_eq (distinctKeys_constraints mission.brief) constraintsHeld
  have preferencesEq := jsonColumn_eq (distinctKeys_preferences mission.brief) preferencesHeld
  rw [columnValue, columnItems_eq_map, List.map_map] at constraintsEq preferencesEq
  cases isStored
  rw [constraintsEq, preferencesEq]
  rfl

omit [Sha256] in
/-- A mission is read back from its row. -/
theorem toDefinition_missionRow (isStored : missionRow mission ordinal = some row) :
    row.toDefinition = .ok mission := by
  have brief : row.toBrief = .ok mission.brief := by
    rw [missionRow_eq_some isStored, BenchmarkMission.toBrief]
    simp only [iterationOf, bind, Except.bind]
    exact fromPayload_object mission.brief rfl rfl rfl rfl rfl
      (mapM_madeConstraints mission.brief hardConstraintFromPayload_column) rfl
  have oracle : oracleOf row.expectedOutcome row.simulatedValueAmountMinor =
      .ok mission.oracle := by
    rw [missionRow_eq_some isStored]
    have notNegative : ¬(mission.oracle.simulatedValueAmountMinor : Int) < 0 := by omega
    rw [oracleOf, if_neg notNegative]
    exact dif_pos mission.oracle.valueShape
  rw [BenchmarkMission.toDefinition, brief]
  simp only [bind, Except.bind, oracle]
  exact dif_pos mission.worthBounded

omit [Sha256] in
/-- The rows of missions are in their order, and each is read back. -/
theorem missionRows_eq_some {missions : List BenchmarkMissionDefinition}
    {rows : List BenchmarkMission} (isStored : missionRows ordinal missions = some rows) :
    (∀ row ∈ rows, ordinal ≤ row.ordinal) ∧
      rows.Pairwise (fun first second => first.ordinal < second.ordinal) ∧
      rows.mapM BenchmarkMission.toDefinition = .ok missions := by
  induction missions generalizing ordinal rows with
  | nil =>
      cases isStored
      exact ⟨by simp, .nil, rfl⟩
  | cons mission rest ih =>
      obtain ⟨row, rowStored, isStored⟩ := Option.bind_eq_some_iff.mp isStored
      obtain ⟨others, othersStored, isStored⟩ := Option.bind_eq_some_iff.mp isStored
      cases isStored
      obtain ⟨behind, inOrder, readBack⟩ := ih othersStored
      have place : row.ordinal = ordinal := by
        rw [missionRow_eq_some rowStored]
      refine ⟨?_, ?_, ?_⟩
      · intro other member
        rcases List.mem_cons.mp member with rfl | later
        · exact place.ge
        · exact Nat.le_of_succ_le (behind other later)
      · refine List.pairwise_cons.mpr ⟨fun other member => ?_, inOrder⟩
        rw [place]
        exact behind other member
      · rw [List.mapM_cons, toDefinition_missionRow rowStored, readBack]
        rfl

omit [Sha256] [ColumnOrder] in
/-- The parts of a definition pass its checks. -/
theorem suiteOf_definition (definition : BenchmarkSuiteDefinition) :
    suiteOf definition.key definition.version definition.merchantSlug definition.name
      definition.missions = .ok definition := by
  have key : keyOf "suite key" (Payload.text definition.key) =
      .ok ⟨definition.key, definition.isKey⟩ :=
    dif_pos definition.isKey
  have slug : keyOf "merchant slug" (Payload.text definition.merchantSlug) =
      .ok ⟨definition.merchantSlug, definition.isSlug⟩ :=
    dif_pos definition.isSlug
  have version : (definition.version : Int).toNat = definition.version := Int.toNat_natCast _
  rw [suiteOf, key, slug]
  simp only [bind, Except.bind, pure, Except.pure, version,
    dif_pos definition.versionPositive, dif_pos definition.nameStated, dif_pos definition.nameBounded,
    dif_pos definition.missionsPresent, dif_pos definition.missionsBounded,
    dif_pos definition.keysNodup]

/-- A suite is read back from its rows, in whatever order they are found, and its digest is the
one it was stored under. -/
theorem loaded_create {definition : BenchmarkSuiteDefinition} {suite : BenchmarkSuite}
    (isStored : BenchmarkSuiteRepository.create definition = some suite)
    {found : List BenchmarkMission} (same : found.Perm suite.missions) :
    (suite.loaded found).toDefinition = .ok definition ∧
      BenchmarkSuiteRepository.verified (suite.loaded found) = .ok (suite.loaded found) := by
  obtain ⟨hash, hashed, isStored⟩ := Option.bind_eq_some_iff.mp isStored
  obtain ⟨rows, rowsStored, isStored⟩ := Option.bind_eq_some_iff.mp isStored
  cases isStored
  obtain ⟨_, inOrder, readBack⟩ := missionRows_eq_some rowsStored
  have sorted : (KeyOrder.natural Nat).sortBy BenchmarkMission.ordinal found = rows := by
    have places : (rows.map BenchmarkMission.ordinal).Nodup :=
      List.pairwise_map.mpr (inOrder.imp Nat.ne_of_lt)
    refine (KeyOrder.natural Nat).sortBy_eq_of_pairwise _ ?_ same.symm
      (inOrder.imp fun less => decide_eq_true (Nat.le_of_lt less))
    intro first isFirst second isSecond
    exact List.inj_on_of_nodup_map places (same.mem_iff.mp isFirst) (same.mem_iff.mp isSecond)
  have definitionRead : (BenchmarkSuite.loaded
      { suiteKey := definition.key
        version := definition.version
        merchantSlug := definition.merchantSlug
        name := definition.name
        definitionHash := hash
        missions := rows } found).toDefinition = .ok definition := by
    rw [BenchmarkSuite.loaded, sorted, BenchmarkSuite.toDefinition]
    simp only [readBack, bind, Except.bind]
    exact suiteOf_definition definition
  refine ⟨definitionRead, ?_⟩
  rw [BenchmarkSuiteRepository.verified, definitionRead]
  simp only [Except.mapError, bind, Except.bind, hashed]
  exact if_pos rfl

end ReadBack
end Repository

/-- Every kind of value that a mission may ask for. -/
def variedConstraints : List HardConstraint :=
  [.maxQuantity 2, .requiredAttribute "wattage" .gte (.single (.number (.finite 100))),
    .requiredAttribute "colour" .isIn (.tuple [.string "black", .string "grey"]),
    .requiredAttribute "foldable" .eq (.single (.boolean true)), .allowedCategory "chargers"]

def variedMission : BenchmarkMissionDefinition where
  brief :=
    { key := "short-cable"
      objective := "A charger with a short cable"
      budget := ⟨500000, "INR", isCurrencyCode_inr⟩
      quantity := 1
      hardConstraints := variedConstraints
      preferences := ["A short cable"]
      isKey := by decide +kernel
      objectiveStated := by decide +kernel
      objectiveBounded := by decide +kernel
      quantityPositive := Nat.one_pos
      budgetPositive := by decide
      constraintsBounded := by decide
      preferencesBounded := by decide
      preferencesStated := by decide +kernel
      noAmountConstraint := by simp [variedConstraints]
      oneCeiling := by decide
      quantityAuthorized := by rintro _ ⟨⟩; decide
      constraintsValid := by decide +kernel
      exactValues := by
        intro name operator value member
        have exact : variedConstraints.all hasExactValue = true := by decide +kernel
        exact List.all_eq_true.mp exact _ member }
  oracle := ⟨.purchaseAvailable, 450000, by decide⟩
  worthBounded := by decide

def variedSuite : BenchmarkSuiteDefinition where
  key := "volt"
  version := 1
  merchantSlug := "volt-edge"
  name := "Volt"
  missions := [variedMission]
  isKey := by decide +kernel
  isSlug := by decide +kernel
  versionPositive := Nat.one_pos
  nameStated := by decide +kernel
  nameBounded := by decide
  missionsPresent := by simp
  missionsBounded := by decide
  keysNodup := by simp

def variedHash : Hex64 where
  chars := "a82ad914fac81cf7ab92dad5673498f1c808fa5bf23b78413955943d7cbe887b".toList
  isHex := by decide
  length := by decide

@[reducible]
def variedDigest : Sha256 where
  hexdigest _ := variedHash

/-- A database that lists fields backwards. -/
@[reducible]
def backwardColumns : ColumnOrder where
  reorder := List.reverse
  perm := List.reverse_perm

end AgentRank.Benchmark
