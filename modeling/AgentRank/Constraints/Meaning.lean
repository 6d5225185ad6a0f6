import AgentRank.Constraints.Rules
import Mathlib.Data.List.Dedup
import Mathlib.Order.WithBot

/-!
# What a stated rule means

The declared meaning of a comparison, stated without the evaluator: two values
are compared within one kind, text up to trimming and case, numbers by their
order, and an attribute name has to single out one value of a document.  The
evaluator of `Constraints.Rules` is then shown to accept only what is meant.
-/

namespace AgentRank.Constraints

open Text

/-- The position of a number in the extended rational line.  A NaN has none. -/
def Number.position : Number → Option (WithBot (WithTop ℚ))
  | .finite value => some ((value : WithTop ℚ) : WithBot (WithTop ℚ))
  | .posInf => some ((⊤ : WithTop ℚ) : WithBot (WithTop ℚ))
  | .negInf => some ⊥
  | .nan => none

/-- One number is at most another when both have a position and these are so
ordered. -/
def Number.AtMost (first second : Number) : Prop :=
  ∃ low high, first.position = some low ∧ second.position = some high ∧ low ≤ high

/-- Python's `<=` is the order of the positions. -/
theorem Number.le_eq_true_iff (first second : Number) :
    first.le second = true ↔ first.AtMost second := by
  unfold AtMost
  cases first with
  | nan => simp [Number.le, position]
  | negInf =>
      cases second <;> simp [Number.le, position]
  | posInf =>
      cases second <;> simp [Number.le, position]
  | finite low =>
      cases second <;> simp [Number.le, position]

/-- Python's `==` is equality of the positions. -/
theorem Number.eq_eq_true_iff (first second : Number) :
    first.eq second = true ↔ first = second ∧ first ≠ .nan := by
  cases first <;> cases second <;> simp [Number.eq]

section Meaning

variable [CaseFolding]

/-- Two texts are the same word: equal up to trimming and case. -/
def SameText (first second : String) : Prop :=
  normalizeText first = normalizeText second

/-- A name singles out one value of a document: the value under exactly that
name, or else the only value under a name that is the same word. -/
def Attributes.Names (attributes : Attributes) (key : String) (value : Json) : Prop :=
  (key, value) ∈ attributes.items ∨
    (∀ other, (key, other) ∉ attributes.items) ∧
      ∃ name, (name, value) ∈ attributes.items ∧ SameText name key ∧
        ∀ item ∈ attributes.items, SameText item.1 key → item = (name, value)

/-- What lookup finds is the value the name singles out. -/
theorem lookupAttribute_names {attributes : Attributes} {key : String} {value : Json}
    (found : lookupAttribute attributes key = some value) :
    attributes.Names key value := by
  unfold lookupAttribute at found
  cases exactMatch : attributes.items.lookup key with
  | some other =>
      rw [exactMatch] at found
      cases found
      obtain ⟨before, after, itemsEq, _⟩ := List.lookup_eq_some_iff.mp exactMatch
      exact Or.inl (itemsEq ▸ List.mem_append_right before List.mem_cons_self)
  | none =>
      rw [exactMatch] at found
      have absent : ∀ other, (key, other) ∉ attributes.items := by
        intro other member
        have differs := List.lookup_eq_none_iff.mp exactMatch (key, other) member
        simp at differs
      cases candidates : attributes.items.filter fun item =>
          normalizeText item.1 == normalizeText key with
      | nil => simp [candidates] at found
      | cons item rest =>
          cases rest with
          | cons second others => simp [candidates] at found
          | nil =>
              simp only [candidates, Option.some.injEq] at found
              have itemMem : item ∈ attributes.items.filter fun item =>
                  normalizeText item.1 == normalizeText key := by
                rw [candidates]
                exact List.mem_singleton_self item
              rw [List.mem_filter, beq_iff_eq] at itemMem
              refine Or.inr ⟨absent, item.1, ?_, itemMem.2, ?_⟩
              · rw [← found]
                exact itemMem.1
              · intro other otherMem sameWord
                have inMatches : other ∈ attributes.items.filter fun item =>
                    normalizeText item.1 == normalizeText key :=
                  List.mem_filter.mpr ⟨otherMem, beq_iff_eq.mpr sameWord⟩
                rw [candidates, List.mem_singleton] at inMatches
                rw [inMatches, ← found]

/-! ## Comparisons -/

/-- Two scalars of one kind are the same value. -/
def SameValue : ScalarValue → ScalarValue → Prop
  | .string first, .string second => SameText first second
  | .number first, .number second => first = second ∧ first ≠ .nan
  | .boolean first, .boolean second => first = second
  | _, _ => False

/-- A value of the stated kind satisfies the operator. -/
def Satisfies : ConstraintOperator → ConstraintValue → ScalarValue → Prop
  | .eq, .single stated, actual => SameValue stated actual
  | .ne, .single stated, actual =>
      stated.valueType = actual.valueType ∧ ¬SameValue stated actual
  | .gte, .single (.number bound), .number actual => bound.AtMost actual
  | .lte, .single (.number bound), .number actual => actual.AtMost bound
  | .isIn, .tuple members, actual =>
      (∃ member ∈ members, SameValue member actual)
  | _, _, _ => False

/-- Within one kind, the evaluator's equality is sameness of value. -/
theorem equal_eq_true_iff {expected actual : ScalarValue}
    (sameKind : expected.valueType = actual.valueType) :
    equal expected actual = true ↔ SameValue expected actual := by
  cases expected <;> cases actual <;>
    simp_all [equal, SameValue, SameText, ScalarValue.valueType, Number.eq_eq_true_iff]

/-- A validated membership list is homogeneous. -/
def Homogeneous : ConstraintValue → Prop
  | .single _ => True
  | .tuple members =>
      ∀ first ∈ members, ∀ second ∈ members, first.valueType = second.valueType

omit [CaseFolding] in
/-- Validation of a scalar names its kind. -/
theorem validatedScalar_eq_ok {value : ScalarValue} {kind : ConstraintValueType}
    (validated : validatedScalar value = .ok kind) : kind = value.valueType := by
  cases value with
  | string text =>
      simp only [validatedScalar] at validated
      split at validated
      · cases validated
      · split at validated <;> cases validated
        rfl
  | number number =>
      simp only [validatedScalar] at validated
      split at validated <;> cases validated
      rfl
  | boolean flag =>
      cases validated
      rfl

omit [CaseFolding] in
theorem mapM_validatedScalar_eq_ok {members : List ScalarValue}
    {kinds : List ConstraintValueType}
    (validated : members.mapM validatedScalar = .ok kinds) :
    kinds = members.map ScalarValue.valueType := by
  induction members generalizing kinds with
  | nil =>
      rw [List.mapM_nil] at validated
      cases validated
      rfl
  | cons first rest ih =>
      rw [List.mapM_cons] at validated
      cases headEq : validatedScalar first with
      | error refusal =>
          rw [headEq] at validated
          cases validated
      | ok head =>
          cases tailEq : rest.mapM validatedScalar with
          | error refusal =>
              rw [headEq, tailEq] at validated
              cases validated
          | ok tail =>
              rw [headEq, tailEq] at validated
              cases validated
              rw [validatedScalar_eq_ok headEq, ih tailEq, List.map_cons]

omit [CaseFolding] in
/-- A validated constraint value is homogeneous. -/
theorem validateConstraintValue_homogeneous {operator : ConstraintOperator}
    {value : ConstraintValue}
    (validated : validateConstraintValue operator value = .ok ()) :
    Homogeneous value := by
  cases value with
  | single scalar => trivial
  | tuple members =>
      cases operator with
      | isIn =>
          simp only [validateConstraintValue] at validated
          split at validated
          · cases validated
          · split at validated
            · cases validated
            · cases kindsEq : members.mapM validatedScalar with
              | error refusal =>
                  rw [kindsEq] at validated
                  cases validated
              | ok kinds =>
                  rw [kindsEq] at validated
                  simp only [bind, Except.bind] at validated
                  split at validated
                  · cases validated
                  · next single =>
                      have kindsMap := mapM_validatedScalar_eq_ok kindsEq
                      intro first firstMem second secondMem
                      have firstKind : first.valueType ∈ kinds.dedup := by
                        rw [List.mem_dedup, kindsMap]
                        exact List.mem_map_of_mem firstMem
                      have secondKind : second.valueType ∈ kinds.dedup := by
                        rw [List.mem_dedup, kindsMap]
                        exact List.mem_map_of_mem secondMem
                      cases dedupEq : kinds.dedup with
                      | nil => simp [dedupEq] at firstKind
                      | cons kind others =>
                          have noOthers : others = [] := by
                            rw [dedupEq, List.length_cons] at single
                            exact List.eq_nil_of_length_eq_zero (by omega)
                          rw [dedupEq, noOthers, List.mem_singleton] at firstKind secondKind
                          rw [firstKind, secondKind]
      | eq => cases validated
      | ne => cases validated
      | gte => cases validated
      | lte => cases validated

/-- What the evaluator accepts satisfies the operator as declared. -/
theorem compare_eq_some_true {operator : ConstraintOperator} {value : ConstraintValue}
    {actual : Json} (homogeneous : Homogeneous value)
    (accepted : compare operator value actual = some true) :
    ∃ scalar, actual = .scalar scalar ∧ Satisfies operator value scalar := by
  cases actual with
  | null => cases accepted
  | array items => cases accepted
  | object fields => cases accepted
  | scalar scalar =>
      refine ⟨scalar, rfl, ?_⟩
      cases value with
      | tuple members =>
          cases operator with
          | isIn =>
              cases members with
              | nil => cases accepted
              | cons first rest =>
                  simp only [compare] at accepted
                  split at accepted
                  · cases accepted
                  · next sameKind =>
                      rw [ne_eq, not_not] at sameKind
                      rw [Option.some.injEq, List.any_eq_true] at accepted
                      rcases accepted with ⟨member, memberMem, memberEqual⟩
                      have memberKind : member.valueType = scalar.valueType :=
                        (homogeneous member memberMem first List.mem_cons_self).trans
                          sameKind
                      exact ⟨member, memberMem,
                        (equal_eq_true_iff memberKind).mp memberEqual⟩
          | eq => cases accepted
          | ne => cases accepted
          | gte => cases accepted
          | lte => cases accepted
      | single stated =>
          cases operator with
          | isIn => cases accepted
          | eq =>
              simp only [compare, compareSingle] at accepted
              split at accepted
              · cases accepted
              · next sameKind =>
                  rw [ne_eq, not_not] at sameKind
                  exact (equal_eq_true_iff sameKind).mp (Option.some.inj accepted)
          | ne =>
              simp only [compare, compareSingle] at accepted
              split at accepted
              · cases accepted
              · next sameKind =>
                  rw [ne_eq, not_not] at sameKind
                  refine ⟨sameKind, ?_⟩
                  rw [← equal_eq_true_iff sameKind]
                  simpa using accepted
          | gte =>
              cases stated <;> cases scalar <;>
                simp [compare, compareSingle, ScalarValue.valueType] at accepted
              next bound found =>
                exact (Number.le_eq_true_iff bound found).mp accepted
          | lte =>
              cases stated <;> cases scalar <;>
                simp [compare, compareSingle, ScalarValue.valueType] at accepted
              next bound found =>
                exact (Number.le_eq_true_iff found bound).mp accepted

end Meaning

end AgentRank.Constraints
