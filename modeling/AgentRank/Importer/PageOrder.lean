import AgentRank.Importer.Drafts

/-!
# The order of the pages

A reading asks for its identifiers in an order of its own, and what it is answered is a function
of the string it asks for.  So it reads the same whatever other pages were read before it, unless
an identifier of it collides with one of theirs.
-/

namespace AgentRank.Importer

open Text Auth Relational Representation

/-! ## Readings that ask for identifiers -/

/-- A string that an identifier is asked for, in one of the two namespaces. -/
inductive NameCall
  | product (raw : String)
  | sku (raw : String)

variable {call : NameCall}

namespace NameCall

def raw : NameCall → String
  | product raw => raw
  | sku raw => raw

/-- What is taken in the namespace of a call. -/
def takenIn (identifiers : Identifiers) : NameCall → Taken
  | product _ => identifiers.products
  | sku _ => identifiers.skus

/-- Two calls in one namespace. -/
def sameNamespace : NameCall → NameCall → Bool
  | product _, product _ => true
  | sku _, sku _ => true
  | _, _ => false

theorem takenIn_eq {other : NameCall} (same : call.sameNamespace other = true)
    (identifiers : Identifiers) : call.takenIn identifiers = other.takenIn identifiers := by
  cases call <;> cases other <;> first | rfl | cases same

end NameCall

/-- How one reading goes on after another, state by state. -/
theorem bind_apply {α β : Type} (first : Naming α) (rest : α → Naming β)
    (identifiers : Identifiers) :
    (first >>= rest) identifiers =
      match first identifiers with
      | (.ok value, now) => rest value now
      | (.error collision, now) => (.error collision, now) := by
  simp only [bind, ExceptT.bind, ExceptT.mk, StateT.bind]
  cases first identifiers with
  | mk answer now => cases answer <;> rfl

/-- A reading with one possible value. -/
theorem eq_constant {α : Type} {reading : Naming α} {value : α}
    (constant : ∀ identifiers name now, reading identifiers = (.ok name, now) → name = value) :
    reading = (do let _ ← reading; pure value) := by
  funext identifiers
  rw [bind_apply]
  cases read : reading identifiers with
  | mk answer now =>
      cases answer with
      | error collision => rfl
      | ok name =>
          rw [constant identifiers name now read]
          rfl

section Stable

variable [CharacterTables] [Sha256]

def NameCall.perform : NameCall → Naming Unit
  | .product raw => do let _ ← productId raw
  | .sku raw => do let _ ← skuFor raw

def performAll : List NameCall → Naming Unit
  | [] => pure ()
  | call :: rest => do
      call.perform
      performAll rest

/-- The reading asks for these names, and has this value when it is given them. -/
def Steady {α : Type} (reading : Naming α) (calls : List NameCall) (value : α) : Prop :=
  reading = (do performAll calls; pure value)

/-- The reading depends on the identifiers so far by nothing but collisions. -/
def IsSteady {α : Type} (reading : Naming α) : Prop :=
  ∃ calls value, Steady reading calls value

theorem performAll_append (calls more : List NameCall) :
    performAll (calls ++ more) = (do performAll calls; performAll more) := by
  induction calls with
  | nil => simp [performAll]
  | cons call rest ih => simp [performAll, ih]

theorem isSteady_pure {α : Type} (value : α) : IsSteady (pure value : Naming α) :=
  ⟨[], value, by simp [Steady, performAll]⟩

theorem IsSteady.bind {α β : Type} {first : Naming α} {rest : α → Naming β}
    (steady : IsSteady first) (steadyRest : ∀ value, IsSteady (rest value)) :
    IsSteady (first >>= rest) := by
  obtain ⟨calls, value, isFirst⟩ := steady
  obtain ⟨more, result, isRest⟩ := steadyRest value
  refine ⟨calls ++ more, result, ?_⟩
  rw [Steady] at isFirst isRest ⊢
  rw [isFirst, performAll_append]
  simp [isRest]

theorem IsSteady.map {α β : Type} {reading : Naming α} (steady : IsSteady reading) (change : α → β) :
    IsSteady (change <$> reading) := by
  rw [map_eq_pure_bind]
  exact steady.bind fun value => isSteady_pure (change value)

/-- A string that is given an identifier is given its own. -/
theorem assign_ok {taken : Taken} {raw name : String}
    (given : (assign taken raw).1 = .ok name) : name = identifierFor raw := by
  have answer := assign_answer taken raw
  rw [given, answerFor] at answer
  split at answer
  · cases answer
    rfl
  · cases answer

theorem isSteady_productId (raw : String) : IsSteady (productId raw) := by
  refine ⟨[.product raw], identifierFor raw, ?_⟩
  have constant := @eq_constant _ (productId raw) (identifierFor raw) (by
    intro identifiers name now read
    exact @assign_ok _ _ identifiers.products _ _ (congrArg Prod.fst read))
  rw [Steady]
  simpa [performAll, NameCall.perform] using constant

theorem isSteady_skuFor (raw : String) : IsSteady (skuFor raw) := by
  refine ⟨[.sku raw], identifierFor raw, ?_⟩
  have constant := @eq_constant _ (skuFor raw) (identifierFor raw) (by
    intro identifiers name now read
    exact @assign_ok _ _ identifiers.skus _ _ (congrArg Prod.fst read))
  rw [Steady]
  simpa [performAll, NameCall.perform] using constant

/-! ## What a call leaves -/

variable {identifiers now : Identifiers} {asked : NameCall → Prop}

namespace NameCall

/-- The identifier that a call asks for belongs to its string. -/
def Held (identifiers : Identifiers) (call : NameCall) : Prop :=
  (call.takenIn identifiers).lookup (identifierFor call.raw) = some call.raw

/-- The identifiers once a call was answered. -/
def leave (call : NameCall) (identifiers : Identifiers) : Identifiers :=
  match call with
  | product raw => { identifiers with products := (assign identifiers.products raw).2 }
  | sku raw => { identifiers with skus := (assign identifiers.skus raw).2 }

theorem perform_apply (call : NameCall) (identifiers : Identifiers) :
    call.perform identifiers =
      ((assign (call.takenIn identifiers) call.raw).1.map fun _ => (), call.leave identifiers) := by
  cases call with
  | product raw =>
      rw [perform, bind_apply]
      simp only [productId, takenIn, NameCall.raw, leave]
      cases (assign identifiers.products raw).1 <;> rfl
  | sku raw =>
      rw [perform, bind_apply]
      simp only [skuFor, takenIn, NameCall.raw, leave]
      cases (assign identifiers.skus raw).1 <;> rfl

/-- What is taken in a namespace changes by a call of it alone. -/
theorem lookup_leave (call other : NameCall) (identifiers : Identifiers) (candidate : String) :
    (other.takenIn (call.leave identifiers)).lookup candidate =
      if call.sameNamespace other then
        ((other.takenIn identifiers).lookup candidate).or
          (if identifierFor call.raw = candidate then some call.raw else none)
      else (other.takenIn identifiers).lookup candidate := by
  cases call <;> cases other
  case product.product => exact lookup_assign _ _ candidate
  case sku.sku => exact lookup_assign _ _ candidate
  case product.sku | sku.product => rfl

/-- What is held stays held. -/
theorem Held.leave {other : NameCall} (held : other.Held identifiers) :
    other.Held (call.leave identifiers) := by
  rw [Held, lookup_leave, held]
  split <;> rfl

/-- A call that is answered holds its identifier. -/
theorem held_of_perform (performed : call.perform identifiers = (.ok (), now)) :
    now = call.leave identifiers ∧ call.Held now := by
  rw [perform_apply] at performed
  have isNow : call.leave identifiers = now := congrArg Prod.snd performed
  have isOk : (assign (call.takenIn identifiers) call.raw).1.map (fun _ => ()) = .ok () :=
    congrArg Prod.fst performed
  refine ⟨isNow.symm, ?_⟩
  rw [← isNow, Held, lookup_leave, if_pos (by cases call <;> rfl), if_pos rfl]
  rw [assign_answer, answerFor] at isOk
  split at isOk
  · next owned => exact owned
  · cases isOk

/-- Two calls that hold one identifier in one namespace are for one string. -/
theorem Held.raw_eq {other : NameCall} (held : call.Held identifiers)
    (otherHeld : other.Held identifiers) (same : call.sameNamespace other = true)
    (sameName : identifierFor call.raw = identifierFor other.raw) : call.raw = other.raw := by
  rw [Held, takenIn_eq same, sameName] at held
  rw [Held, held] at otherHeld
  exact Option.some.inj otherHeld

/-- No two strings of some calls would become one identifier. -/
def Consistent (asked : NameCall → Prop) : Prop :=
  ∀ call other, asked call → asked other → call.sameNamespace other = true →
    identifierFor call.raw = identifierFor other.raw → call.raw = other.raw

/-- Everything that is taken was asked for. -/
def TakenFrom (asked : NameCall → Prop) (identifiers : Identifiers) : Prop :=
  ∀ (call : NameCall) candidate raw, (call.takenIn identifiers).lookup candidate = some raw →
    ∃ earlier, asked earlier ∧ earlier.sameNamespace call = true ∧ earlier.raw = raw ∧
      identifierFor raw = candidate

/-- Where no two strings collide, a call is answered. -/
theorem perform_of_consistent (consistent : Consistent asked)
    (isTaken : TakenFrom asked identifiers) (isAsked : asked call) :
    call.perform identifiers = (.ok (), call.leave identifiers) ∧
      TakenFrom asked (call.leave identifiers) := by
  constructor
  · rw [perform_apply, assign_answer, answerFor, if_pos]
    · rfl
    · cases taken : (call.takenIn identifiers).lookup (identifierFor call.raw) with
      | none => rfl
      | some raw =>
          obtain ⟨earlier, askedEarlier, same, rfl, sameName⟩ := isTaken call _ raw taken
          rw [consistent earlier call askedEarlier isAsked same sameName]
          rfl
  · intro other candidate raw taken
    rw [lookup_leave] at taken
    split at taken
    · next same =>
        rw [Option.or_eq_some_iff] at taken
        rcases taken with before | ⟨_, now⟩
        · exact isTaken other candidate raw before
        · split at now
          · next isCandidate =>
              cases now
              exact ⟨call, isAsked, same, rfl, isCandidate⟩
          · cases now
    · exact isTaken other candidate raw taken

end NameCall

/-- Answered calls hold their identifiers, and those that were held stay so. -/
theorem held_of_performAll {calls : List NameCall}
    (performed : performAll calls identifiers = (.ok (), now)) :
    (∀ call ∈ calls, call.Held now) ∧ ∀ call : NameCall, call.Held identifiers → call.Held now := by
  induction calls generalizing identifiers with
  | nil =>
      cases performed
      exact ⟨fun _ member => absurd member List.not_mem_nil, fun _ held => held⟩
  | cons first rest ih =>
      rw [performAll, bind_apply] at performed
      cases isFirst : first.perform identifiers with
      | mk answer between =>
          rw [isFirst] at performed
          cases answer with
          | error collision => cases performed
          | ok _ =>
              obtain ⟨rfl, held⟩ := NameCall.held_of_perform isFirst
              obtain ⟨restHeld, stays⟩ := ih performed
              refine ⟨?_, fun call before => stays call before.leave⟩
              intro call member
              rcases List.mem_cons.mp member with rfl | inRest
              · exact stays _ held
              · exact restHeld call inRest

theorem performAll_of_consistent (consistent : NameCall.Consistent asked) {calls : List NameCall}
    (areAsked : ∀ call ∈ calls, asked call) (taken : NameCall.TakenFrom asked identifiers) :
    ∃ now, performAll calls identifiers = (.ok (), now) ∧ NameCall.TakenFrom asked now := by
  induction calls generalizing identifiers with
  | nil => exact ⟨identifiers, rfl, taken⟩
  | cons first rest ih =>
      obtain ⟨performed, stillTaken⟩ :=
        NameCall.perform_of_consistent consistent taken (areAsked first List.mem_cons_self)
      obtain ⟨now, performedRest, nowTaken⟩ :=
        ih (fun call member => areAsked call (List.mem_cons_of_mem _ member)) stillTaken
      refine ⟨now, ?_, nowTaken⟩
      rw [performAll, bind_apply, performed]
      exact performedRest

variable [Representations] [UpperCase]

theorem isSteady_variantOf (sourceUrl : String) (product : Node) (index : Nat)
    (entry : VariantEntry) : IsSteady (variantOf sourceUrl product index entry) := by
  unfold variantOf
  split
  · exact isSteady_pure _
  · exact (isSteady_skuFor _).bind fun _ => isSteady_pure _

theorem isSteady_variantsOf (sourceUrl : String) (product : Node) (index : Nat)
    (entries : List VariantEntry) (variants : List DraftVariant) :
    IsSteady (variantsOf sourceUrl product index entries variants) := by
  induction entries generalizing index variants with
  | nil => exact isSteady_pure _
  | cons entry rest ih =>
      rw [variantsOf]
      refine (isSteady_variantOf sourceUrl product index entry).bind fun built => ?_
      split
      · exact isSteady_pure _
      · split
        · exact ih _ _
        · split
          · exact isSteady_pure _
          · exact isSteady_pure _

theorem isSteady_structuredProduct (node : Node) (reading : PageReading) (sourceUrl : String)
    (nodes : List Node) (title : String) (variants : List DraftVariant) :
    IsSteady (structuredProduct node reading sourceUrl nodes title variants) := by
  unfold structuredProduct
  dsimp only
  split
  · exact isSteady_pure _
  · exact (isSteady_productId _).bind fun _ => isSteady_pure _

theorem isSteady_fromStructured (node : Node) (reading : PageReading) (sourceUrl : String)
    (nodes : List Node) : IsSteady (fromStructured node reading sourceUrl nodes) := by
  unfold fromStructured
  split
  · exact isSteady_pure _
  · split
    · exact isSteady_pure _
    · split
      · exact isSteady_pure _
      · refine (isSteady_variantsOf sourceUrl node 0 _ []).bind fun read => ?_
        split
        · exact isSteady_pure _
        · exact isSteady_pure _
        · exact (isSteady_structuredProduct _ _ _ _ _ _).map some

theorem isSteady_fromMetadata (reading : PageReading) (sourceUrl : String) (nodes : List Node) :
    IsSteady (fromMetadata reading sourceUrl nodes) := by
  unfold fromMetadata
  split
  · exact isSteady_pure _
  · split
    · exact isSteady_pure _
    · exact isSteady_pure _
    · split
      · exact isSteady_pure _
      · dsimp only
        split
        · exact isSteady_pure _
        · exact (isSteady_productId _).bind fun _ =>
            (isSteady_skuFor _).bind fun _ => isSteady_pure _

theorem isSteady_readProduct (reading : PageReading) (sourceUrl : String) :
    IsSteady (readProduct reading sourceUrl) := by
  unfold readProduct
  dsimp only
  split
  · exact isSteady_fromMetadata _ _ _
  · refine (isSteady_fromStructured _ _ _ _).bind fun structured => ?_
    split
    · exact isSteady_pure _
    · exact isSteady_fromMetadata _ _ _

/-! ## Runs over pages -/

/-- What a page asks for, and what it is read as when nothing collides. -/
structure Reads (page : RetrievedPage) (calls : List NameCall) (outcome : ProductExtraction) :
    Prop where
  steady : ∀ identifiers, ∃ findings,
    extractProduct page.reading page.url identifiers =
      match performAll calls identifiers with
      | (.ok _, now) => (outcome, now)
      | (.error collision, now) => (.omitted (collided page.url collision) findings, now)

theorem exists_reads (page : RetrievedPage) : ∃ calls outcome, Reads page calls outcome := by
  obtain ⟨calls, value, isSteady⟩ := isSteady_readProduct page.reading page.url
  by_cases several : (productNodes (structuredNodes page.reading).1).length > 1
  · refine ⟨[], (extractProduct page.reading page.url {}).1, ⟨fun identifiers => ⟨[], ?_⟩⟩⟩
    simp only [extractProduct, if_pos several, performAll]
    rfl
  · refine ⟨calls,
      { value with
        findings := malformedFindings page.url (structuredNodes page.reading).2 ++ value.findings },
      ⟨fun identifiers =>
        ⟨malformedFindings page.url (structuredNodes page.reading).2, ?_⟩⟩⟩
    simp only [extractProduct, if_neg several]
    rw [isSteady, bind_apply]
    cases performAll calls identifiers with
    | mk answer now => cases answer <;> rfl

/-- The reasons of the omissions by which one page refers to another. -/
def repeats : List String :=
  ["identifier_collision", "duplicate_product", "duplicate_variant"]

/-- No page was left out for what another page publishes. -/
def Progress.Unrepeated (progress : Progress) : Prop :=
  ∀ omission ∈ progress.omissions, omission.reason ∉ repeats

variable {pages : List RetrievedPage}

section Runs

variable {calls : RetrievedPage → List NameCall} {outcome : RetrievedPage → ProductExtraction}
  (reads : ∀ page, Reads page (calls page) (outcome page))
include reads

variable {progress : Progress} {page : RetrievedPage}

/-- A page whose identifiers do not collide is read as if it were alone, but for a duplicate. -/
theorem readPage_of_performed
    (performed : performAll (calls page) progress.identifiers = (.ok (), now)) :
    (readPage progress page).identifiers = now ∧
      match (outcome page).product with
      | none => (readPage progress page).products = progress.products
      | some product =>
          match duplicateIdentity product progress.products with
          | none => (readPage progress page).products = progress.products ++ [product]
          | some duplicate => duplicate ∈ (readPage progress page).omissions := by
  obtain ⟨findings, steady⟩ := (reads page).steady progress.identifiers
  rw [performed] at steady
  rw [readPage, steady]
  dsimp only
  split
  · next isNone =>
      simp [isNone]
  · next product isProduct =>
      simp only [isProduct]
      split
      · next isNone => simp [isNone]
      · next duplicate isDuplicate => simp [isDuplicate]

omit reads in
theorem omissions_readPage (progress : Progress) (page : RetrievedPage) :
    ∀ omission ∈ progress.omissions ++
        (extractProduct page.reading page.url progress.identifiers).1.omission.toList,
      omission ∈ (readPage progress page).omissions := by
  intro omission member
  unfold readPage
  dsimp only
  split
  · exact member
  · split
    · exact member
    · exact List.mem_append_left _ member

omit [CharacterTables] [Sha256] [Representations] [UpperCase] reads in
theorem reason_duplicateIdentity {product : DraftProduct} {accepted : List DraftProduct}
    {duplicate : Omission} (isDuplicate : duplicateIdentity product accepted = some duplicate) :
    duplicate.reason ∈ repeats := by
  unfold duplicateIdentity at isDuplicate
  dsimp only at isDuplicate
  split at isDuplicate
  · cases isDuplicate
    simp [repeats]
  · obtain ⟨first, _, rfl⟩ := Option.map_eq_some_iff.mp isDuplicate
    simp [repeats]

/-- A page that is not left out for another page is read as if it were alone. -/
theorem readPage_of_unrepeated (unrepeated : (readPage progress page).Unrepeated) :
    progress.Unrepeated ∧
      performAll (calls page) progress.identifiers =
        (.ok (), (readPage progress page).identifiers) ∧
      (readPage progress page).products =
        progress.products ++ (outcome page).product.toList ∧
      ∀ product ∈ (outcome page).product, ∀ existing ∈ progress.products,
        Apart existing product := by
  have kept := omissions_readPage progress page
  refine ⟨fun omission member => unrepeated omission (kept omission (List.mem_append_left _ member)),
    ?_⟩
  obtain ⟨findings, steady⟩ := (reads page).steady progress.identifiers
  cases performed : performAll (calls page) progress.identifiers with
  | mk answer now =>
      cases answer with
      | error collision =>
          rw [performed] at steady
          rw [steady] at kept
          have isCollision := unrepeated (collided page.url collision)
            (kept _ (List.mem_append_right _ (by simp [ProductExtraction.omitted])))
          exact absurd (by simp [collided, repeats]) isCollision
      | ok _ =>
          obtain ⟨isNow, isRead⟩ := readPage_of_performed reads performed
          rw [isNow]
          refine ⟨rfl, ?_⟩
          cases isProduct : (outcome page).product with
          | none =>
              rw [isProduct] at isRead
              simpa using isRead
          | some product =>
              simp only [isProduct] at isRead
              split at isRead
              · next isNone =>
                  refine ⟨isRead, ?_⟩
                  intro other isOther
                  cases isOther
                  exact duplicateIdentity_eq_none_iff.mp isNone
              · next duplicate isDuplicate =>
                  exact absurd (reason_duplicateIdentity isDuplicate) (unrepeated _ isRead)

/-- A page whose identities are its own is read as if it were alone. -/
theorem readPage_of_apart
    (performed : performAll (calls page) progress.identifiers = (.ok (), now))
    (apart : ∀ product ∈ (outcome page).product, ∀ existing ∈ progress.products,
      Apart existing product) :
    (readPage progress page).identifiers = now ∧
      (readPage progress page).products = progress.products ++ (outcome page).product.toList := by
  obtain ⟨isNow, isRead⟩ := readPage_of_performed reads performed
  refine ⟨isNow, ?_⟩
  cases isProduct : (outcome page).product with
  | none =>
      rw [isProduct] at isRead
      simpa using isRead
  | some product =>
      have isNone := duplicateIdentity_eq_none_iff.mpr (apart product isProduct)
      simpa only [isProduct, isNone, Option.toList_some] using isRead

omit [CharacterTables] [Sha256] [Representations] [UpperCase] reads in
theorem filterMap_product (page : RetrievedPage) (rest : List RetrievedPage) :
    (page :: rest).filterMap (fun page => (outcome page).product) =
      (outcome page).product.toList ++ rest.filterMap fun page => (outcome page).product := by
  cases isProduct : (outcome page).product <;> simp [isProduct]

theorem unrepeated_of_foldl (unrepeated : (pages.foldl readPage progress).Unrepeated) :
    progress.Unrepeated := by
  induction pages generalizing progress with
  | nil => exact unrepeated
  | cons page rest ih => exact (readPage_of_unrepeated reads (ih unrepeated)).1

/-- A run in which no page is left out for another one: every call is answered, and the
products are those of the pages, no two of which share an identity. -/
theorem run_of_unrepeated (unrepeated : (pages.foldl readPage progress).Unrepeated)
    (apart : progress.products.Pairwise Apart) :
    (∀ page ∈ pages, ∀ call ∈ calls page,
        call.Held (pages.foldl readPage progress).identifiers) ∧
      (∀ call : NameCall, call.Held progress.identifiers →
        call.Held (pages.foldl readPage progress).identifiers) ∧
      (pages.foldl readPage progress).products =
        progress.products ++ pages.filterMap (fun page => (outcome page).product) ∧
      (pages.foldl readPage progress).products.Pairwise Apart := by
  induction pages generalizing progress with
  | nil => exact ⟨by simp, fun _ held => held, by simp, apart⟩
  | cons page rest ih =>
      rw [List.foldl_cons] at unrepeated ⊢
      obtain ⟨_, performed, isProducts, isApart⟩ :=
        readPage_of_unrepeated reads (unrepeated_of_foldl reads unrepeated)
      obtain ⟨heldNow, heldBefore⟩ := held_of_performAll performed
      have apartNow : (readPage progress page).products.Pairwise Apart := by
        rw [isProducts, List.pairwise_append]
        refine ⟨apart, ?_, fun existing member product isProduct =>
          isApart product (Option.mem_toList.mp isProduct) existing member⟩
        cases (outcome page).product <;> simp
      obtain ⟨heldRest, stays, restProducts, restApart⟩ := ih unrepeated apartNow
      refine ⟨?_, fun call held => stays call (heldBefore call held), ?_, restApart⟩
      · intro other member call isCall
        rcases List.mem_cons.mp member with rfl | inRest
        · exact stays call (heldNow call isCall)
        · exact heldRest other inRest call isCall
      · rw [restProducts, isProducts, filterMap_product, List.append_assoc]

/-- A run over pages that ask for nothing that collides, and whose products share no identity. -/
theorem run_of_consistent (consistent : NameCall.Consistent asked)
    (areAsked : ∀ page ∈ pages, ∀ call ∈ calls page, asked call)
    (taken : NameCall.TakenFrom asked progress.identifiers)
    (apart : (progress.products ++
      pages.filterMap fun page => (outcome page).product).Pairwise Apart) :
    (pages.foldl readPage progress).products =
      progress.products ++ pages.filterMap fun page => (outcome page).product := by
  induction pages generalizing progress with
  | nil => simp
  | cons page rest ih =>
      rw [filterMap_product, ← List.append_assoc] at apart ⊢
      obtain ⟨now, performed, nowTaken⟩ :=
        performAll_of_consistent consistent (areAsked page List.mem_cons_self) taken
      have isApart : ∀ product ∈ (outcome page).product, ∀ existing ∈ progress.products,
          Apart existing product := by
        intro product isProduct existing member
        exact (List.pairwise_append.mp (List.pairwise_append.mp apart).1).2.2 existing member
          product (Option.mem_toList.mpr isProduct)
      obtain ⟨isNow, isProducts⟩ := readPage_of_apart reads performed isApart
      rw [List.foldl_cons, ih (fun other member => areAsked other (List.mem_cons_of_mem _ member))
        (isNow.symm ▸ nowTaken) (isProducts.symm ▸ apart), isProducts]

end Runs

/-- The products of a draft: those that the pages produced, as far as a source holds them. -/
def draftProducts (pages : List RetrievedPage) : List DraftProduct :=
  boundedProducts (retrieve pages).products

omit [Representations] [UpperCase] in
theorem isEmpty_takenFrom (asked : NameCall → Prop) : NameCall.TakenFrom asked {} := by
  intro call candidate raw taken
  cases call <;> cases taken

/-- Where no page is left out for another one and nothing is cut, the order of the pages decides
nothing but the order of the products. -/
theorem draftProducts_perm {others : List RetrievedPage} (sameSet : pages.Perm others)
    (unrepeated : (retrieve pages).Unrepeated)
    (uncut : draftProducts pages = (retrieve pages).products) :
    (draftProducts pages).Perm (draftProducts others) := by
  choose calls outcome reads using exists_reads
  obtain ⟨held, _, isProducts, apart⟩ := run_of_unrepeated reads unrepeated List.Pairwise.nil
  have consistent : NameCall.Consistent fun call => ∃ page ∈ pages, call ∈ calls page := by
    rintro call other ⟨page, member, isCall⟩ ⟨otherPage, otherMember, isOther⟩ same sameName
    exact (held page member call isCall).raw_eq (held otherPage otherMember other isOther) same
      sameName
  have sameProducts := sameSet.filterMap fun page => (outcome page).product
  have apartPages : (pages.filterMap fun page => (outcome page).product).Pairwise Apart := by
    rw [isProducts, List.nil_append] at apart
    exact apart
  have apartOthers : (([] : List DraftProduct) ++
      others.filterMap fun page => (outcome page).product).Pairwise Apart := by
    rw [List.nil_append]
    exact (sameProducts.pairwise_iff fun apart => apart.symm).mp apartPages
  have otherProducts : (others.foldl readPage {}).products =
      [] ++ others.filterMap fun page => (outcome page).product :=
    run_of_consistent reads consistent
      (fun page member call isCall => ⟨page, sameSet.mem_iff.mpr member, isCall⟩)
      (isEmpty_takenFrom _) apartOthers
  have permuted : (retrieve pages).products.Perm (retrieve others).products := by
    rw [retrieve, isProducts, retrieve, otherProducts, List.nil_append, List.nil_append]
    exact sameProducts
  rw [draftProducts, boundedProducts_eq_iff] at uncut
  rw [draftProducts, draftProducts, (boundedProducts_eq_iff _).mpr uncut,
    (boundedProducts_eq_iff _).mpr]
  · exact permuted
  · rw [← permuted.length_eq]
    have sameCount : variantCount (retrieve others).products =
        variantCount (retrieve pages).products :=
      (permuted.map fun (product : DraftProduct) => product.variants.length).sum_eq.symm
    rw [sameCount]
    exact uncut

/-- Imported identities are stable.  What a string is given is an identifier and a function of
the string; whoever asks first keeps it and a different string is refused; and where no page is
left out for what another one publishes and nothing is cut, every order of the pages produces
the same products. -/
theorem identities_stable :
    (∀ raw, IsIdentifier (identifierFor raw).toList) ∧
      (∀ raws,
        (assignEach [] raws).1 =
            raws.map (fun raw => answerFor (ownerOf raws (identifierFor raw)) raw) ∧
          ∀ candidate, (assignEach [] raws).2.lookup candidate = ownerOf raws candidate) ∧
      ∀ pages others : List RetrievedPage, pages.Perm others → (retrieve pages).Unrepeated →
        draftProducts pages = (retrieve pages).products →
          (draftProducts pages).Perm (draftProducts others) := by
  refine ⟨identifierFor_isIdentifier, ?_, fun _ _ => draftProducts_perm⟩
  intro raws
  simpa using assignEach_spec [] raws

end Stable

@[reducible]
def asciiUpper : UpperCase where
  upperChar char := [char.toUpper]

/-- A page that publishes one product with one offer. -/
def productPage (url identifier sku : String) : RetrievedPage where
  url := url
  reading :=
    { title := none
      heading := none
      metadata := Mapping.empty
      structuredBlocks :=
        [some (.object
          [("@type", .string "Product"), ("name", .string "Cable"),
            ("sku", .string identifier),
            ("offers", .object
              [("@type", .string "Offer"), ("sku", .string sku), ("price", .string "10"),
                ("priceCurrency", .string "INR")])])] }

def blueLarge : Hex64 where
  chars := "2db11f9cd6b0b80d02a9f5bcff07d10e7e7931e5f6ffd17a056bd966fb957501".toList
  isHex := by decide
  length := by decide

/-- The digest of one string that is no identifier. -/
@[reducible]
def blueLargeDigest : Sha256 where
  hexdigest _ := blueLarge

/-- Two pages publish one product under two SKUs, and no identifier collides in either order:
the page that comes first decides which SKU the draft has. -/
theorem first_page_decides :
    let _ := asciiTables
    let _ := asciiUpper
    let _ := emptyRepresentations
    let _ := blueLargeDigest
    let pages :=
      [productPage "https://shop.test/a" "A1" "A1-RED",
        productPage "https://shop.test/b" "A1" "A1-BLUE"]
    pages.Perm pages.reverse ∧
      (∀ omission ∈ (retrieve pages).omissions, omission.reason ≠ "identifier_collision") ∧
        (∀ omission ∈ (retrieve pages.reverse).omissions,
          omission.reason ≠ "identifier_collision") ∧
          (draftProducts pages).flatMap (fun product => product.variants.map DraftVariant.sku) =
              ["A1-RED"] ∧
            (draftProducts pages.reverse).flatMap
                (fun product => product.variants.map DraftVariant.sku) =
              ["A1-BLUE"] := by
  refine ⟨List.reverse_perm _ |>.symm, ?_, ?_, ?_, ?_⟩ <;> decide +kernel

/-- Two pages of two products, one of which publishes a SKU that is no identifier. -/
theorem identities_stable_sample :
    let _ := asciiTables
    let _ := asciiUpper
    let _ := emptyRepresentations
    let _ := blueLargeDigest
    let pages :=
      [productPage "https://shop.test/a" "A1" "A1-RED",
        productPage "https://shop.test/b" "B1" "Blue / Large"]
    identifierFor "Blue / Large" = "Blue-Large-2db11f9cd6b0" ∧
      (draftProducts pages).Perm (draftProducts pages.reverse) := by
  let _ := asciiTables
  let _ := asciiUpper
  let _ := emptyRepresentations
  let _ := blueLargeDigest
  refine ⟨by decide +kernel, ?_⟩
  exact identities_stable.2.2 _ _ (List.reverse_perm _).symm
    (by unfold Progress.Unrepeated; decide +kernel) (by decide +kernel)

end AgentRank.Importer
