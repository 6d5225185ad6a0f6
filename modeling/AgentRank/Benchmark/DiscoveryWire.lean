import AgentRank.Benchmark.DiscoveryProjection

/-!
# Views across the worker's wire

What the trusted side writes, the worker reads back exactly when no fact is named like benchmark
ground truth.  The view it reads has the facts of the view that was written, and forgets only
the SKUs without facts, which show the same.
-/

namespace AgentRank.Benchmark

open Constraints Relational Store Text

universe u

section Loops

variable {ε α β γ : Type u}

/-- A loop that reads every item and accumulates it reads all the items first. -/
theorem foldlM_read (read : α → Except ε β) (take : γ → β → γ) (items : List α) (start : γ) :
    items.foldlM (fun held item => return take held (← read item)) start =
      (do return (← items.mapM read).foldl take start) := by
  induction items generalizing start with
  | nil => rfl
  | cons item rest ih =>
      rw [List.foldlM_cons, List.mapM_cons]
      cases read item with
      | error failure => rfl
      | ok value =>
          change rest.foldlM _ (take start value) = _
          rw [ih]
          cases rest.mapM read <;> rfl

/-- A loop whose turns all go through. -/
theorem foldlM_ok {turn : γ → α → Except ε γ} {next : γ → α → γ} {items : List α}
    (each : ∀ item ∈ items, ∀ held, turn held item = .ok (next held item)) (start : γ) :
    items.foldlM turn start = .ok (items.foldl next start) := by
  induction items generalizing start with
  | nil => rfl
  | cons item rest ih =>
      rw [List.forall_mem_cons] at each
      rw [List.foldlM_cons, each.1]
      exact ih each.2 (next start item)

end Loops

/-- Two views of one kind with the same facts under every SKU. -/
structure ShowAlike (first second : BuyerDiscoveryView) : Prop where
  kind : first.kind = second.kind
  factsOf : ∀ sku, first.factsOf sku = second.factsOf sku

namespace ShowAlike

variable {first second : BuyerDiscoveryView}

theorem present_eq (alike : ShowAlike first second) (projected : List (String × Json)) :
    present first projected = present second projected := by
  have sameFacts : factsUnder first = factsUnder second := by
    funext sku
    unfold factsUnder
    rw [alike.kind]
    cases second.kind with
    | storefront => rfl
    | agentReady =>
        dsimp only
        split
        · rw [alike.factsOf]
        · rfl
  unfold present
  rw [sameFacts]

mutual

theorem project_eq (alike : ShowAlike first second) : ∀ document : Json,
    project first document = project second document
  | .null => rfl
  | .scalar _ => rfl
  | .array items => by rw [project, project, projectItems_eq alike items]
  | .object fields => by
      rw [project, project, projectFields_eq alike fields, funext alike.present_eq]

theorem projectItems_eq (alike : ShowAlike first second) : ∀ items : List Json,
    projectItems first items = projectItems second items
  | [] => rfl
  | item :: rest => by
      rw [projectItems, projectItems, project_eq alike item, projectItems_eq alike rest]

theorem projectFields_eq (alike : ShowAlike first second) : ∀ fields : List (String × Json),
    projectFields first fields = projectFields second fields
  | [] => rfl
  | (name, value) :: rest => by
      rw [projectFields, projectFields, project_eq alike value, projectFields_eq alike rest]

end

end ShowAlike

/-- The facts that some statements make of a SKU, in their order. -/
def statedOf (statements : List (String × Fact)) (sku : String) : List Fact :=
  (statements.filter fun statement => decide (statement.1 = sku)).map Prod.snd

theorem getD_foldl_admit (statements : List (String × Fact)) (bySku : Mapping (List Fact))
    (sku : String) :
    ((statements.foldl admitStatement bySku).get? sku).getD [] =
      (bySku.get? sku).getD [] ++ statedOf statements sku := by
  induction statements generalizing bySku with
  | nil => exact (List.append_nil _).symm
  | cons statement rest ih =>
      rw [List.foldl_cons, ih, admitStatement, Mapping.get?_insert]
      by_cases same : sku = statement.1
      · rw [if_pos same, Option.getD_some, statedOf, statedOf, List.filter_cons,
          decide_eq_true same.symm, if_pos rfl, List.map_cons, ← same, List.append_assoc]
        rfl
      · rw [if_neg same, statedOf, statedOf, List.filter_cons,
          decide_eq_false (Ne.symm same), if_neg Bool.false_ne_true]

/-- The SKUs that are accumulated are those that are stated. -/
theorem sku_of_mem_foldl {statements : List (String × Fact)} {bySku : Mapping (List Fact)}
    {entry : String × List Fact}
    (member : entry ∈ (statements.foldl admitStatement bySku).entries) :
    (∃ statement ∈ statements, statement.1 = entry.1) ∨
      ∃ held ∈ bySku.entries, held.1 = entry.1 := by
  induction statements generalizing bySku with
  | nil => exact Or.inr ⟨entry, member, rfl⟩
  | cons statement rest ih =>
      rcases ih member with ⟨later, laterMem, sameSku⟩ | ⟨held, isHeld, sameSku⟩
      · exact Or.inl ⟨later, List.mem_cons_of_mem _ laterMem, sameSku⟩
      · rcases Mapping.mem_insertEntry isHeld with rfl | old
        · exact Or.inl ⟨statement, List.mem_cons_self, sameSku⟩
        · exact Or.inr ⟨held, old, sameSku⟩

/-- Where no SKU occurs twice, the statements of a SKU are the facts under it. -/
theorem statedOf_entries {entries : List (String × List Fact)}
    (distinct : (entries.map Prod.fst).Nodup) (sku : String) :
    statedOf (entries.flatMap fun entry => entry.2.map fun fact => (entry.1, fact)) sku =
      (entries.lookup sku).getD [] := by
  induction entries with
  | nil => rfl
  | cons entry rest ih =>
      obtain ⟨first, facts⟩ := entry
      rw [List.map_cons, List.nodup_cons] at distinct
      have split : statedOf
          (((first, facts) :: rest).flatMap fun entry => entry.2.map fun fact => (entry.1, fact))
          sku =
          (if first = sku then facts else []) ++
            statedOf (rest.flatMap fun entry => entry.2.map fun fact => (entry.1, fact)) sku := by
        rw [List.flatMap_cons, statedOf, List.filter_append, List.map_append, List.filter_map,
          List.map_map]
        congr 1
        by_cases same : first = sku
        · simp [same, Function.comp_def]
        · simp [same, Function.comp_def]
      rw [split, ih distinct.2, Mapping.lookup_cons_ite]
      by_cases same : sku = first
      · subst same
        have absent : rest.lookup sku = none := by
          rw [List.lookup_eq_none_iff]
          intro entry member
          rw [bne_iff_ne]
          rintro rfl
          exact distinct.1 (List.mem_map.mpr ⟨entry, member, rfl⟩)
        simp [absent]
      · rw [if_neg same, if_neg (Ne.symm same), List.nil_append]

theorem statedOf_statements (view : BuyerDiscoveryView) (sku : String) :
    statedOf view.statements sku = view.factsOf sku :=
  statedOf_entries view.attributesBySku.keysNodup sku

/-- A fact that may be published: it is not named like benchmark ground truth, and holds no object
with such a field. -/
structure Fact.IsPublishable (fact : Fact) : Prop where
  named : isOracleName fact.key = .ok false
  plain : forbiddenIn fact.document = []

/-- How the worker reads a fact under its SKU. -/
theorem readStatement_wireItem (sku : String) (fact : Fact) :
    readStatement (wireItem sku fact) =
      if isBlank sku then
        .error (.valueError { message := "an agent-ready fact names its sku" })
      else (isOracleName fact.key).bind fun isOracle =>
        if isOracle then
          .error (.valueError
            { message := "a published fact may not be named like benchmark ground truth" })
        else .ok (sku, fact) := by
  have exactly : hasExactly (("sku", Payload.text sku) :: fact.fields) ("sku" :: factFields) =
      true :=
    decide_eq_true (List.Perm.refl _)
  have isSku : itemOf (wireItem sku fact) "sku" = .ok (.scalar (.string sku)) := rfl
  have isKey : itemOf (wireItem sku fact) "key" = .ok fact.key := rfl
  have isKind : itemOf (wireItem sku fact) "kind" = .ok fact.kind := rfl
  have isUnit : itemOf (wireItem sku fact) "unit" = .ok fact.unit := rfl
  have isValue : itemOf (wireItem sku fact) "value" = .ok fact.value := rfl
  unfold wireItem at *
  unfold readStatement
  simp only [exactly, isSku, isKey, isKind, isUnit, isValue, if_true, bind, Except.bind, pure,
    Except.pure]

theorem readStatement_eq_ok_iff {sku : String} {fact : Fact} {statement : String × Fact}
    (isNamed : isBlank sku = false) :
    readStatement (wireItem sku fact) = .ok statement ↔
      isOracleName fact.key = .ok false ∧ statement = (sku, fact) := by
  rw [readStatement_wireItem, isNamed, if_neg Bool.false_ne_true]
  cases isOracleName fact.key with
  | error failure => simp [Except.bind]
  | ok isOracle => cases isOracle <;> simp [Except.bind, eq_comm]

theorem forbiddenInItems_eq_nil_iff {items : List Json} :
    forbiddenInItems items = [] ↔ ∀ item ∈ items, forbiddenIn item = [] := by
  induction items with
  | nil => simp [forbiddenInItems]
  | cons item rest ih =>
      rw [forbiddenInItems, List.forall_mem_cons, ← ih]
      cases forbiddenIn item with
      | nil => simp
      | cons first more => simp

/-- What is written of a fact holds an oracle field exactly where the fact does. -/
theorem forbiddenIn_wireItem (sku : String) (fact : Fact) :
    forbiddenIn (wireItem sku fact) = forbiddenIn fact.document := by
  have noneNamed : (oracleFields.filter fun name =>
      ((("sku", Payload.text sku) :: fact.fields).lookup name).isSome) = [] := rfl
  have noneInFact : (oracleFields.filter fun name => (fact.fields.lookup name).isSome) = [] := rfl
  rw [wireItem, Fact.document, forbiddenIn, forbiddenIn, noneNamed, noneInFact]
  rfl

/-! ## The round trip -/

/-- The form of an agent-ready view on the wire. -/
theorem toPayload_agentReady {view : BuyerDiscoveryView} {id : Uuid}
    (kind : view.kind = .agentReady) (isPinned : view.representationId = some id) :
    toPayload view = .object
      [("kind", Payload.text "AGENT_READY"), ("representation_id", Payload.uuid id),
        ("attributes",
          .array (view.statements.map fun statement => wireItem statement.1 statement.2))] := by
  unfold toPayload
  rw [kind, isPinned]
  rfl

theorem forbiddenIn_toPayload {view : BuyerDiscoveryView} {id : Uuid}
    (kind : view.kind = .agentReady) (isPinned : view.representationId = some id) :
    forbiddenIn (toPayload view) = [] ↔
      ∀ statement ∈ view.statements, forbiddenIn statement.2.document = [] := by
  have items : forbiddenIn (toPayload view) = forbiddenInItems
      (view.statements.map fun statement => wireItem statement.1 statement.2) := by
    have noneNamed : ∀ items : List Json, (oracleFields.filter fun name =>
        (List.lookup name [("kind", Payload.text "AGENT_READY"),
          ("representation_id", Payload.uuid id), ("attributes", .array items)]).isSome) = [] :=
      fun _ => rfl
    rw [toPayload_agentReady kind isPinned, forbiddenIn, noneNamed]
    simp only [forbiddenInFields, forbiddenIn, Payload.text, Payload.uuid]
    cases forbiddenInItems (view.statements.map fun statement =>
      wireItem statement.1 statement.2) <;> rfl
  rw [items, forbiddenInItems_eq_nil_iff]
  simp only [List.forall_mem_map, forbiddenIn_wireItem]

theorem viewFromPayload_storefront {fields : List (String × Json)}
    (isKind : fields.lookup "kind" = some (Payload.text "STOREFRONT"))
    (exactly : hasExactly fields ["kind"] = true) :
    viewFromPayload (.object fields) = storefrontView := by
  unfold viewFromPayload
  simp only [isKind, Payload.text]
  rw [if_pos (by decide), if_pos exactly]

theorem viewFromPayload_agentReady {fields : List (String × Json)}
    (isKind : fields.lookup "kind" = some (Payload.text "AGENT_READY")) :
    viewFromPayload (.object fields) = agentReadyFromPayload (.object fields) fields := by
  unfold viewFromPayload
  simp only [isKind, Payload.text]
  rw [if_neg (by decide), if_pos (by decide)]

/-- How the worker reads an agent-ready view. -/
theorem viewFromPayload_toPayload {view : BuyerDiscoveryView} {id : Uuid}
    (kind : view.kind = .agentReady) (isPinned : view.representationId = some id) :
    viewFromPayload (toPayload view) = (do
      rejectOracleFields (toPayload view)
      let bySku ← (view.statements.map fun statement =>
          wireItem statement.1 statement.2).foldlM
        (fun bySku item => return admitStatement bySku (← readStatement item)) .empty
      agentReadyView id bySku) := by
  have isRead := toPayload_agentReady kind isPinned
  generalize (view.statements.map fun statement => wireItem statement.1 statement.2) = items
    at isRead ⊢
  have exactly : hasExactly
      [("kind", Payload.text "AGENT_READY"), ("representation_id", Payload.uuid id),
        ("attributes", .array items)] ["kind", "representation_id", "attributes"] = true :=
    decide_eq_true (List.Perm.refl _)
  have stated : itemOf (toPayload view) "attributes" = .ok (.array items) := by
    rw [isRead]
    rfl
  have named : representationOf (toPayload view) = .ok id := by
    have isText : itemOf (toPayload view) "representation_id" =
        .ok (.scalar (.string (toString id))) := by
      rw [isRead]
      rfl
    unfold representationOf
    simp only [isText, bind, Except.bind, uuidOf_toString]
  have isAgentReady : viewFromPayload (toPayload view) = agentReadyFromPayload (toPayload view)
      [("kind", Payload.text "AGENT_READY"), ("representation_id", Payload.uuid id),
        ("attributes", .array items)] := by
    rw [isRead]
    exact viewFromPayload_agentReady rfl
  rw [isAgentReady]
  unfold agentReadyFromPayload
  rw [exactly]
  simp only [named, stated, if_true, pure, Except.pure, bind, Except.bind]

variable {view : Made BuyerDiscoveryView}

/-- What is relied on of a view that passed its check. -/
theorem storefront_of_made (kind : view.fields.kind = .storefront) :
    view.fields.representationId = none ∧ view.fields.attributesBySku = .empty := by
  have sound := view.sound
  simp only [Dataclass.refusal, kind] at sound
  split at sound
  · cases sound
  · next clean =>
      rw [Bool.or_eq_true, not_or, Bool.not_eq_true, Option.isSome_eq_false_iff,
        Option.isNone_iff_eq_none, Bool.not_eq_true, Bool.not_eq_false', List.isEmpty_iff] at clean
      exact ⟨clean.1, Mapping.ext clean.2⟩

theorem agentReady_of_made (kind : view.fields.kind = .agentReady) :
    (∃ id, view.fields.representationId = some id) ∧
      ∀ entry ∈ view.fields.attributesBySku.entries, isBlank entry.1 = false := by
  have sound := view.sound
  simp only [Dataclass.refusal, kind] at sound
  split at sound
  · cases sound
  · next isPinned =>
      split at sound
      · cases sound
      · next named =>
          refine ⟨?_, fun entry member => ?_⟩
          · rwa [Option.isNone_iff_eq_none, ← ne_eq, Option.ne_none_iff_exists'] at isPinned
          · rw [Bool.not_eq_true, List.any_eq_false] at named
            exact Bool.not_eq_true _ ▸ named entry member

/-- Facts under SKUs that are not blank make a view. -/
theorem agentReadyView_eq_ok (id : Uuid) {bySku : Mapping (List Fact)}
    (named : ∀ entry ∈ bySku.entries, isBlank entry.1 = false) :
    ∃ view, agentReadyView id bySku = .ok view ∧ view.fields.kind = .agentReady ∧
      view.fields.attributesBySku = bySku := by
  have sound : Dataclass.refusal ({
      kind := .agentReady
      representationId := some id
      attributesBySku := bySku } : BuyerDiscoveryView) = none := by
    simp only [Dataclass.refusal, Option.isNone_some, Bool.false_eq_true, if_false]
    rw [if_neg]
    rw [Bool.not_eq_true, List.any_eq_false]
    exact fun entry member => by rw [named entry member]; exact Bool.false_ne_true
  exact ⟨_, by rw [agentReadyView, built, make_of_sound sound]; rfl, rfl, rfl⟩

/-- What the worker reads of an agent-ready view shows the same. -/
theorem showAlike_of_read {view : BuyerDiscoveryView} {decoded : BuyerDiscoveryView}
    (kind : view.kind = .agentReady) (decodedKind : decoded.kind = .agentReady)
    (facts : decoded.attributesBySku = view.statements.foldl admitStatement .empty) :
    ShowAlike decoded view where
  kind := decodedKind.trans kind.symm
  factsOf sku := by
    rw [BuyerDiscoveryView.factsOf, facts, getD_foldl_admit, statedOf_statements]
    rfl

theorem isBlank_of_mem_statements {statement : String × Fact}
    (kind : view.fields.kind = .agentReady) (member : statement ∈ view.fields.statements) :
    isBlank statement.1 = false := by
  obtain ⟨entry, entryMem, isFact⟩ := List.mem_flatMap.mp member
  obtain ⟨fact, _, rfl⟩ := List.mem_map.mp isFact
  exact (agentReady_of_made kind).2 entry entryMem

/-- The worker reads the statements of a view back as they are. -/
theorem mapM_readStatement {statements : List (String × Fact)}
    (named : ∀ statement ∈ statements, isBlank statement.1 = false)
    (publishable : ∀ statement ∈ statements, isOracleName statement.2.key = .ok false) :
    (statements.map fun statement => wireItem statement.1 statement.2).mapM readStatement =
      .ok statements := by
  rw [mapM_eq_ok_iff, List.forall₂_map_left_iff, List.forall₂_same]
  intro statement member
  exact (readStatement_eq_ok_iff (named statement member)).mpr ⟨publishable statement member, rfl⟩

/-- The worker reads a view exactly when every fact of it may be published, and then reads a view
that shows the same. -/
theorem decoded_of_agentReady (kind : view.fields.kind = .agentReady) :
    ((∃ decoded, viewFromPayload (toPayload view.fields) = .ok decoded) ↔
        ∀ statement ∈ view.fields.statements, statement.2.IsPublishable) ∧
      ∀ decoded, viewFromPayload (toPayload view.fields) = .ok decoded →
        ShowAlike decoded.fields view.fields := by
  obtain ⟨⟨id, isPinned⟩, _⟩ := agentReady_of_made kind
  have named : ∀ statement ∈ view.fields.statements, isBlank statement.1 = false :=
    fun statement member => isBlank_of_mem_statements kind member
  have publishable_of_decoded : ∀ decoded,
      viewFromPayload (toPayload view.fields) = .ok decoded →
        ∀ statement ∈ view.fields.statements, statement.2.IsPublishable := by
    intro decoded isDecoded
    rw [viewFromPayload_toPayload kind isPinned, foldlM_read] at isDecoded
    obtain ⟨_, isAllowed, isDecoded⟩ := except_bind_eq_ok_iff.mp isDecoded
    obtain ⟨bySku, isRead, _⟩ := except_bind_eq_ok_iff.mp isDecoded
    obtain ⟨read, isMapped, _⟩ := except_bind_eq_ok_iff.mp isRead
    have plain : forbiddenIn (toPayload view.fields) = [] := by
      unfold rejectOracleFields at isAllowed
      split at isAllowed
      · assumption
      · cases isAllowed
    have each := exists_mapM_eq_ok_iff.mp ⟨read, isMapped⟩
    intro statement member
    obtain ⟨result, isResult⟩ := each _ (List.mem_map_of_mem member)
    exact ⟨((readStatement_eq_ok_iff (named statement member)).mp isResult).1,
      (forbiddenIn_toPayload kind isPinned).mp plain statement member⟩
  have decoded_of_publishable : (∀ statement ∈ view.fields.statements,
      statement.2.IsPublishable) → ∃ decoded,
        viewFromPayload (toPayload view.fields) = .ok decoded ∧
          ShowAlike decoded.fields view.fields := by
    intro publishable
    have plain := (forbiddenIn_toPayload kind isPinned).mpr fun statement member =>
      (publishable statement member).plain
    have isAllowed : rejectOracleFields (toPayload view.fields) = .ok ⟨⟩ := by
      rw [rejectOracleFields, plain]
    have isMapped := mapM_readStatement named fun statement member =>
      (publishable statement member).named
    have namedAfter : ∀ entry ∈ (view.fields.statements.foldl admitStatement .empty).entries,
        isBlank entry.1 = false := by
      intro entry member
      rcases sku_of_mem_foldl member with ⟨statement, stated, sameSku⟩ | ⟨held, isHeld, _⟩
      · exact sameSku ▸ named statement stated
      · cases isHeld
    obtain ⟨decoded, isDecoded, decodedKind, facts⟩ := agentReadyView_eq_ok id namedAfter
    refine ⟨decoded, ?_, showAlike_of_read kind decodedKind facts⟩
    rw [viewFromPayload_toPayload kind isPinned, foldlM_read, isAllowed, isMapped]
    exact isDecoded
  refine ⟨⟨fun ⟨decoded, isDecoded⟩ => publishable_of_decoded decoded isDecoded,
    fun publishable => ?_⟩, fun decoded isDecoded => ?_⟩
  · obtain ⟨decoded, isDecoded, _⟩ := decoded_of_publishable publishable
    exact ⟨decoded, isDecoded⟩
  · obtain ⟨other, isOther, alike⟩ :=
      decoded_of_publishable (publishable_of_decoded decoded isDecoded)
    rw [isDecoded] at isOther
    cases isOther
    exact alike

/-- A storefront is read back as a storefront. -/
theorem decoded_of_storefront (kind : view.fields.kind = .storefront) :
    ∃ decoded, viewFromPayload (toPayload view.fields) = .ok decoded ∧
      ShowAlike decoded.fields view.fields := by
  obtain ⟨notPinned, noFacts⟩ := storefront_of_made kind
  have isWritten : toPayload view.fields = .object [("kind", Payload.text "STOREFRONT")] := by
    unfold toPayload
    rw [kind]
    rfl
  have isRead : viewFromPayload (.object [("kind", Payload.text "STOREFRONT")]) =
      storefrontView :=
    viewFromPayload_storefront rfl (by decide)
  have sound : Dataclass.refusal ({ kind := .storefront } : BuyerDiscoveryView) = none := rfl
  refine ⟨⟨_, sound⟩, ?_, kind.symm, fun sku => ?_⟩
  · rw [isWritten, isRead, storefrontView, built, make_of_sound sound]
    rfl
  · rw [BuyerDiscoveryView.factsOf, BuyerDiscoveryView.factsOf, noFacts]

/-- The worker reads a view exactly when every fact of it may be published. -/
theorem exists_decoded_iff (view : Made BuyerDiscoveryView) :
    (∃ decoded, viewFromPayload (toPayload view.fields) = .ok decoded) ↔
      ∀ statement ∈ view.fields.statements, statement.2.IsPublishable := by
  cases kind : view.fields.kind with
  | storefront =>
      obtain ⟨decoded, isDecoded, _⟩ := decoded_of_storefront kind
      have noStatements : view.fields.statements = [] := by
        rw [BuyerDiscoveryView.statements, (storefront_of_made kind).2]
        rfl
      simp only [noStatements, List.not_mem_nil, false_imp_iff, implies_true, iff_true]
      exact ⟨decoded, isDecoded⟩
  | agentReady => exact (decoded_of_agentReady kind).1

/-- What the worker reads shows every document as the view that was written does. -/
theorem discover_decoded {decoded : Made BuyerDiscoveryView}
    (isDecoded : viewFromPayload (toPayload view.fields) = .ok decoded) (document : Json) :
    discover decoded.fields document = discover view.fields document := by
  have alike : ShowAlike decoded.fields view.fields := by
    cases kind : view.fields.kind with
    | storefront =>
        obtain ⟨other, isOther, alike⟩ := decoded_of_storefront kind
        rw [isDecoded] at isOther
        cases isOther
        exact alike
    | agentReady => exact (decoded_of_agentReady kind).2 decoded isDecoded
  exact alike.project_eq document

end AgentRank.Benchmark
