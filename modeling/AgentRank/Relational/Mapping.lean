import Mathlib.Computability.Primrec.List
import Mathlib.Data.List.Infix
import Mathlib.Data.List.Nodup
import Mathlib.Data.String.Basic

/-!
# Mappings from strings

A mapping holds one value for a key.  Its entries are listed in the order of their keys, so
two mappings with the same values are the same mapping, whatever order they were written in.
-/

namespace AgentRank.Relational

universe u v

/-- A finite mapping from strings. -/
structure Mapping (α : Type u) where
  entries : List (String × α)
  sorted : entries.Pairwise fun first second => first.1 < second.1

namespace Mapping

variable {α : Type u} {β : Type v}

instance [DecidableEq α] : DecidableEq (Mapping α) := fun first second =>
  decidable_of_iff (first.entries = second.entries) (by cases first; cases second; simp)

@[ext]
theorem ext {first second : Mapping α} (same : first.entries = second.entries) :
    first = second := by
  cases first
  cases second
  cases same
  rfl

def empty : Mapping α where
  entries := []
  sorted := .nil

instance : Inhabited (Mapping α) := ⟨empty⟩

/-- The value under a key, when there is one. -/
def get? (mapping : Mapping α) (key : String) : Option α :=
  mapping.entries.lookup key

/-- The values of a mapping, under their keys. -/
def map (change : α → β) (mapping : Mapping α) : Mapping β where
  entries := mapping.entries.map fun entry => (entry.1, change entry.2)
  sorted := List.pairwise_map.mpr mapping.sorted

theorem lookup_cons_ite (first key : String) (held : α) (rest : List (String × α)) :
    ((first, held) :: rest).lookup key = if key = first then some held else rest.lookup key := by
  by_cases isFirst : key = first
  · simp [isFirst]
  · rw [List.lookup_cons, beq_false_of_ne isFirst, if_neg isFirst]

variable {entries : List (String × α)} {key : String}

/-- Where no key occurs twice, lookup finds what the list holds. -/
theorem lookup_eq_some_iff (distinct : (entries.map Prod.fst).Nodup) {value : α} :
    entries.lookup key = some value ↔ (key, value) ∈ entries := by
  induction entries with
  | nil => simp
  | cons entry rest ih =>
      obtain ⟨first, held⟩ := entry
      rw [List.map_cons, List.nodup_cons] at distinct
      rw [lookup_cons_ite, List.mem_cons]
      by_cases isFirst : key = first
      · subst isFirst
        have absent : (key, value) ∉ rest := fun member =>
          distinct.1 (List.mem_map.mpr ⟨_, member, rfl⟩)
        simp [absent, eq_comm]
      · simp [isFirst, ih distinct.2]

theorem keysNodup (mapping : Mapping α) : (mapping.entries.map Prod.fst).Nodup :=
  (List.pairwise_map.mpr mapping.sorted).imp fun less => ne_of_lt less

theorem get?_eq_some_iff {mapping : Mapping α} {value : α} :
    mapping.get? key = some value ↔ (key, value) ∈ mapping.entries :=
  lookup_eq_some_iff mapping.keysNodup

/-- Two mappings that answer the same are the same. -/
theorem ext_get? {first second : Mapping α}
    (same : ∀ key, first.get? key = second.get? key) : first = second := by
  have sameMem : ∀ entry, entry ∈ first.entries ↔ entry ∈ second.entries := by
    rintro ⟨key, value⟩
    rw [← get?_eq_some_iff, ← get?_eq_some_iff, same]
  have perm : first.entries.Perm second.entries :=
    (List.perm_ext_iff_of_nodup (.of_map _ first.keysNodup) (.of_map _ second.keysNodup)).mpr
      sameMem
  apply Mapping.ext
  apply perm.eq_of_pairwise _ first.sorted second.sorted
  intro one other _ _ less more
  exact absurd more (not_lt_of_gt less)

/-! ## Building a mapping -/

/-- Write a value under its key, among entries in the order of their keys. -/
def insertEntry (key : String) (value : α) : List (String × α) → List (String × α)
  | [] => [(key, value)]
  | (first, held) :: rest =>
      if key < first then (key, value) :: (first, held) :: rest
      else if key = first then (key, value) :: rest
      else (first, held) :: insertEntry key value rest

theorem mem_insertEntry {value : α} {entry : String × α}
    (member : entry ∈ insertEntry key value entries) :
    entry = (key, value) ∨ entry ∈ entries := by
  induction entries with
  | nil => exact Or.inl (List.mem_singleton.mp member)
  | cons first rest ih =>
      rw [insertEntry] at member
      split at member
      · exact List.mem_cons.mp member
      · split at member
        · rcases List.mem_cons.mp member with isNew | old
          · exact Or.inl isNew
          · exact Or.inr (List.mem_cons_of_mem _ old)
        · rcases List.mem_cons.mp member with isFirst | later
          · exact Or.inr (isFirst ▸ List.mem_cons_self)
          · exact (ih later).imp_right (List.mem_cons_of_mem _)

theorem sorted_insertEntry {value : α}
    (sorted : entries.Pairwise fun first second => first.1 < second.1) :
    (insertEntry key value entries).Pairwise fun first second => first.1 < second.1 := by
  induction entries with
  | nil => exact List.pairwise_singleton _ _
  | cons entry rest ih =>
      obtain ⟨first, held⟩ := entry
      rcases List.pairwise_cons.mp sorted with ⟨before, restSorted⟩
      rw [insertEntry]
      split
      · next less =>
          refine List.pairwise_cons.mpr ⟨fun other member => ?_, sorted⟩
          rcases List.mem_cons.mp member with rfl | later
          · exact less
          · exact less.trans (before other later)
      · next notLess =>
          split
          · next isFirst =>
              subst isFirst
              exact List.pairwise_cons.mpr ⟨before, restSorted⟩
          · next isOther =>
              refine List.pairwise_cons.mpr ⟨fun other member => ?_, ih restSorted⟩
              rcases mem_insertEntry member with rfl | old
              · exact lt_of_le_of_ne (not_lt.mp notLess) fun same => isOther same.symm
              · exact before other old

/-- Assign a value to a key. -/
def insert (mapping : Mapping α) (key : String) (value : α) : Mapping α where
  entries := insertEntry key value mapping.entries
  sorted := sorted_insertEntry mapping.sorted

theorem get?_insert (mapping : Mapping α) (key other : String) (value : α) :
    (mapping.insert key value).get? other =
      if other = key then some value else mapping.get? other := by
  have entriesOf : ∀ entries : List (String × α),
      entries.Pairwise (fun first second => first.1 < second.1) →
      (insertEntry key value entries).lookup other =
        if other = key then some value else entries.lookup other := by
    intro entries sorted
    induction entries with
    | nil => rw [insertEntry, lookup_cons_ite]
    | cons entry rest ih =>
        obtain ⟨first, held⟩ := entry
        rcases List.pairwise_cons.mp sorted with ⟨_, restSorted⟩
        rw [insertEntry]
        split
        · rw [lookup_cons_ite]
        · split
          · next isFirst =>
              subst isFirst
              rw [lookup_cons_ite, lookup_cons_ite]
              by_cases same : other = key <;> simp [same]
          · next isOther =>
              rw [lookup_cons_ite, lookup_cons_ite, ih restSorted]
              by_cases isFirst : other = first
              · subst isFirst
                simp [Ne.symm isOther]
              · simp [isFirst]
  exact entriesOf mapping.entries mapping.sorted

/-- The mapping that some assignments leave, one after another. -/
def ofEntries (entries : List (String × α)) : Mapping α :=
  entries.foldl (fun mapping entry => mapping.insert entry.1 entry.2) empty

/-- Where no key occurs twice, every assignment stays. -/
theorem get?_ofEntries (distinct : (entries.map Prod.fst).Nodup) (key : String) :
    (ofEntries entries).get? key = entries.lookup key := by
  have after : ∀ (mapping : Mapping α) (entries : List (String × α)),
      (entries.map Prod.fst).Nodup →
      (entries.foldl (fun mapping entry => mapping.insert entry.1 entry.2) mapping).get? key =
        (entries.lookup key).or (mapping.get? key) := by
    intro mapping entries distinct
    induction entries generalizing mapping with
    | nil => rfl
    | cons entry rest ih =>
        obtain ⟨first, held⟩ := entry
        rw [List.map_cons, List.nodup_cons] at distinct
        rw [List.foldl_cons, ih _ distinct.2, get?_insert, lookup_cons_ite]
        by_cases isFirst : key = first
        · subst isFirst
          have absent : rest.lookup key = none := by
            rw [List.lookup_eq_none_iff]
            intro entry member
            refine bne_iff_ne.mpr fun same => distinct.1 ?_
            exact List.mem_map.mpr ⟨entry, member, same.symm⟩
          simp [absent]
        · simp [isFirst]
  have fromEmpty := after empty entries distinct
  rw [show (empty : Mapping α).get? key = none from rfl, Option.or_none] at fromEmpty
  exact fromEmpty

/-- A mapping holds none but the entries that it was built from. -/
theorem mem_ofEntries {value : α} (found : (ofEntries entries).get? key = some value) :
    (key, value) ∈ entries := by
  have kept : ∀ (mapping : Mapping α) (later : List (String × α)),
      (later.foldl (fun mapping entry => mapping.insert entry.1 entry.2) mapping).get? key =
          some value →
        (key, value) ∈ later ∨ mapping.get? key = some value := by
    intro mapping later
    induction later generalizing mapping with
    | nil => exact Or.inr
    | cons entry rest ih =>
        intro held
        rcases ih (mapping.insert entry.1 entry.2) held with isLater | inserted
        · exact Or.inl (List.mem_cons_of_mem entry isLater)
        · rw [get?_insert] at inserted
          split at inserted
          · next isKey =>
              cases inserted
              rw [isKey]
              exact Or.inl List.mem_cons_self
          · exact Or.inr inserted
  rcases kept empty entries found with member | absent
  · exact member
  · cases absent

/-- Where no key occurs twice, a mapping holds the entries it was built from. -/
theorem entries_ofEntries_perm (distinct : (entries.map Prod.fst).Nodup) :
    (ofEntries entries).entries.Perm entries := by
  rw [List.perm_ext_iff_of_nodup (.of_map _ (ofEntries entries).keysNodup) (.of_map _ distinct)]
  rintro ⟨key, value⟩
  rw [← get?_eq_some_iff, get?_ofEntries distinct, lookup_eq_some_iff distinct]

/-- The order of assignments to different keys does not matter. -/
theorem ofEntries_perm {first second : List (String × α)} (perm : first.Perm second)
    (distinct : (first.map Prod.fst).Nodup) : ofEntries first = ofEntries second := by
  have alsoDistinct : (second.map Prod.fst).Nodup := (perm.map Prod.fst).nodup_iff.mp distinct
  apply ext_get?
  intro key
  rw [get?_ofEntries distinct, get?_ofEntries alsoDistinct]
  apply Option.ext
  intro value
  rw [lookup_eq_some_iff distinct, lookup_eq_some_iff alsoDistinct, perm.mem_iff]

/-- A mapping is what its entries leave. -/
theorem ofEntries_entries (mapping : Mapping α) : ofEntries mapping.entries = mapping :=
  ext_get? fun key => get?_ofEntries mapping.keysNodup key

end Mapping

end AgentRank.Relational
