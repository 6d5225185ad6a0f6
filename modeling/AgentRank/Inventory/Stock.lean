import AgentRank.Inventory.Reservations

/-!
# Stock on the shelf

The shelf says whose a variant is and how many units of it there are.  Selling the lines
of a hold takes exactly their units off the shelf and misses none, as long as every line
is covered by what is there.
-/

namespace AgentRank.Inventory

open Relational Store

/-- Whose a variant is, and how many units there are. -/
def shelf (variants : Table Variant) (variantId : Uuid) : Option (Uuid × Nat) :=
  (variants.get? variantId).map fun variant =>
    (variant.merchantId, variant.inventoryQuantity)

/-- An entry of the shelf with further units. -/
def plus (units : Nat) (entry : Uuid × Nat) : Uuid × Nat :=
  (entry.1, entry.2 + units)

theorem plus_zero : plus 0 = id := by
  funext entry
  rfl

theorem plus_comp_plus (first second : Nat) : plus first ∘ plus second = plus (second + first) := by
  funext entry
  simp [plus, add_assoc]

variable {variants : Table Variant} {merchantId : Uuid}

theorem shelf_eq_some_iff {variantId : Uuid} {quantity : Nat} :
    shelf variants variantId = some (merchantId, quantity) ↔
      ∃ variant, findVariant variants merchantId variantId = some variant ∧
        variant.inventoryQuantity = quantity := by
  simp only [shelf, findVariant, Option.map_eq_some_iff, Prod.mk.injEq,
    Option.filter_eq_some_iff, beq_iff_eq, and_assoc]

/-- A variant of the catalog is on the shelf. -/
theorem shelf_of_mem {variant : Variant} (member : variant ∈ variants) :
    shelf variants variant.id = some (variant.merchantId, variant.inventoryQuantity) := by
  have found : variants.get? variant.id = some variant := Table.get?_key member
  simp [shelf, found]

@[simp]
theorem unitsOf_nil (variantId : Uuid) : unitsOf [] variantId = 0 :=
  rfl

theorem unitsOf_cons (line : InventoryReservationLine) (rest : List InventoryReservationLine)
    (variantId : Uuid) :
    unitsOf (line :: rest) variantId =
      (if line.variantId = variantId then line.quantity else 0) + unitsOf rest variantId := by
  by_cases named : line.variantId = variantId <;> simp [unitsOf, named]

theorem unitsOf_eq_of_perm {first second : List InventoryReservationLine}
    (perm : first.Perm second) (variantId : Uuid) :
    unitsOf first variantId = unitsOf second variantId := by
  unfold unitsOf
  exact ((perm.filter _).map _).sum_eq

variable {lines : List InventoryReservationLine}

/-- Lines that do not name a variant hold no units of it. -/
theorem unitsOf_eq_zero {variantId : Uuid}
    (absent : variantId ∉ lines.map InventoryReservationLine.variantId) :
    unitsOf lines variantId = 0 := by
  induction lines with
  | nil => rfl
  | cons line rest ih =>
      rw [List.map_cons, List.mem_cons, not_or] at absent
      rw [unitsOf_cons, if_neg (Ne.symm absent.1), ih absent.2]

/-- Where no variant is named twice, a line holds all units of its variant. -/
theorem unitsOf_of_mem {line : InventoryReservationLine}
    (nodup : (lines.map InventoryReservationLine.variantId).Nodup) (member : line ∈ lines) :
    unitsOf lines line.variantId = line.quantity := by
  induction lines with
  | nil => cases member
  | cons first rest ih =>
      rw [List.map_cons, List.nodup_cons] at nodup
      rw [unitsOf_cons]
      rcases List.mem_cons.mp member with rfl | later
      · rw [if_pos rfl, unitsOf_eq_zero nodup.1, add_zero]
      · have other : first.variantId ≠ line.variantId := by
          intro same
          apply nodup.1
          rw [same]
          exact List.mem_map_of_mem later
        rw [if_neg other, zero_add, ih nodup.2 later]

/-- Lines that hold units of a variant name it. -/
theorem exists_line_of_unitsOf_pos {variantId : Uuid} (positive : 0 < unitsOf lines variantId) :
    ∃ line ∈ lines, line.variantId = variantId := by
  by_contra! absent
  have none : unitsOf lines variantId = 0 := by
    apply unitsOf_eq_zero
    intro member
    obtain ⟨line, lineMem, named⟩ := List.mem_map.mp member
    exact absent line lineMem named
  omega

/-! ## Taking units off the shelf -/

/-- A line that is covered by the stock of its variant. -/
def Covered (merchantId : Uuid) (variants : Table Variant) (line : InventoryReservationLine) :
    Prop :=
  ∃ quantity, shelf variants line.variantId = some (merchantId, quantity) ∧
    line.quantity ≤ quantity

/-- What was on the shelf is what is on it now and the given units of each variant. -/
def TakesOff (before after : Table Variant) (units : Uuid → Nat) : Prop :=
  ∀ variantId, shelf before variantId = (shelf after variantId).map (plus (units variantId))

theorem TakesOff.refl (variants : Table Variant) : TakesOff variants variants fun _ => 0 := by
  intro variantId
  rw [plus_zero, Option.map_id, id]

theorem TakesOff.trans {before middle after : Table Variant} {first second : Uuid → Nat}
    (earlier : TakesOff before middle first) (later : TakesOff middle after second) :
    TakesOff before after fun variantId => second variantId + first variantId := by
  intro variantId
  rw [earlier variantId, later variantId, Option.map_map, plus_comp_plus]

/-- Selling a covered line takes its units off the shelf and misses none. -/
theorem consumeLine_of_covered {line : InventoryReservationLine}
    (covered : Covered merchantId variants line) (missing : List InventoryReservationLine) :
    ∃ next, consumeLine merchantId (variants, missing) line = (next, missing) ∧
      TakesOff variants next (unitsOf [line]) := by
  obtain ⟨quantity, onShelf, enough⟩ := covered
  obtain ⟨variant, found, stock⟩ := shelf_eq_some_iff.mp onShelf
  obtain ⟨member, variantId, _⟩ := findVariant_eq_some_iff.mp found
  have units : min line.quantity variant.inventoryQuantity = line.quantity := by
    rw [stock]
    exact min_eq_left enough
  refine ⟨variants.set
      { variant with inventoryQuantity := variant.inventoryQuantity - line.quantity }, ?_, ?_⟩
  · simp [consumeLine, found, units]
  · intro otherId
    rw [unitsOf_cons, unitsOf_nil, add_zero]
    by_cases same : variant.id = otherId
    · subst same
      have written :
          (variants.set
            { variant with
              inventoryQuantity := variant.inventoryQuantity - line.quantity }).get?
                variant.id = some
                  { variant with
                    inventoryQuantity := variant.inventoryQuantity - line.quantity } :=
        Table.get?_set_self member rfl
      rw [shelf_of_mem member, if_pos variantId.symm]
      simp only [shelf, written, Option.map_some, plus]
      rw [Nat.sub_add_cancel (by rw [stock]; exact enough)]
    · have kept :
          (variants.set
            { variant with
              inventoryQuantity := variant.inventoryQuantity - line.quantity }).get? otherId =
            variants.get? otherId :=
        Table.get?_set_of_ne same
      rw [if_neg (by rw [← variantId]; exact same), plus_zero, Option.map_id, id]
      simp only [shelf, kept]

/-- Selling covered lines, no two of one variant, takes their units off the shelf and
misses none. -/
theorem foldl_consumeLine_of_covered
    (nodup : (lines.map InventoryReservationLine.variantId).Nodup)
    (covered : ∀ line ∈ lines, Covered merchantId variants line)
    (missing : List InventoryReservationLine) :
    ∃ next, lines.foldl (consumeLine merchantId) (variants, missing) = (next, missing) ∧
      TakesOff variants next (unitsOf lines) := by
  induction lines generalizing variants with
  | nil => exact ⟨variants, rfl, TakesOff.refl variants⟩
  | cons line rest ih =>
      rw [List.map_cons, List.nodup_cons] at nodup
      rw [List.forall_mem_cons] at covered
      obtain ⟨middle, soldLine, takesLine⟩ := consumeLine_of_covered covered.1 missing
      have restCovered : ∀ other ∈ rest, Covered merchantId middle other := by
        intro other otherMem
        obtain ⟨quantity, onShelf, enough⟩ := covered.2 other otherMem
        have otherId : line.variantId ≠ other.variantId := by
          intro same
          apply nodup.1
          rw [same]
          exact List.mem_map_of_mem otherMem
        have untouched := takesLine other.variantId
        rw [unitsOf_cons, if_neg otherId, unitsOf_nil, add_zero, plus_zero, Option.map_id, id]
          at untouched
        exact ⟨quantity, untouched.symm.trans onShelf, enough⟩
      obtain ⟨next, soldRest, takesRest⟩ := ih nodup.2 restCovered
      refine ⟨next, ?_, ?_⟩
      · rw [List.foldl_cons, soldLine, soldRest]
      · intro variantId
        have together : unitsOf (line :: rest) variantId =
            unitsOf rest variantId + unitsOf [line] variantId := by
          rw [unitsOf_cons, unitsOf_cons line [], unitsOf_nil, add_zero, add_comm]
        rw [takesLine.trans takesRest variantId, together]

/-- Selling a covered hold takes exactly its units off the shelf and misses none. -/
theorem consumeStock_of_covered (nodup : (lines.map InventoryReservationLine.variantId).Nodup)
    (covered : ∀ line ∈ lines, Covered merchantId variants line) :
    (consumeStock merchantId variants lines).2 = [] ∧
      TakesOff variants (consumeStock merchantId variants lines).1 (unitsOf lines) := by
  have perm := List.perm_insertionSort
    (fun first second : InventoryReservationLine => first.variantId ≤ second.variantId) lines
  have sortedNodup :=
    (perm.map InventoryReservationLine.variantId).nodup_iff.mpr nodup
  obtain ⟨next, sold, takesOff⟩ :=
    foldl_consumeLine_of_covered sortedNodup
      (fun line member => covered line (perm.mem_iff.mp member)) []
  unfold consumeStock
  rw [sold]
  refine ⟨rfl, ?_⟩
  intro variantId
  rw [takesOff variantId, unitsOf_eq_of_perm perm]

end AgentRank.Inventory
