import AgentRank.Text.Normalization

/-!
# Runs of characters

This module defines the substitutions that replace every run of a class of characters, and the
trimming of a class of characters from both ends of a text.
-/

namespace AgentRank.Text

/-- A run that has ended: a long enough one is replaced. -/
def replaceRun (least : Nat) (replacement run : List Char) : List Char :=
  if run = [] ∨ run.length < least then run else replacement

/-- The characters still to be read, behind a run that has not ended yet. -/
def replaceRunsFrom (accepts : Char → Bool) (least : Nat) (replacement : List Char) :
    List Char → List Char → List Char
  | run, [] => replaceRun least replacement run
  | run, char :: rest =>
      if accepts char then
        replaceRunsFrom accepts least replacement (run ++ [char]) rest
      else
        replaceRun least replacement run ++
          char :: replaceRunsFrom accepts least replacement [] rest

/-- `re.sub`, of a class of characters that is repeated at least so often. -/
def replaceRuns (accepts : Char → Bool) (least : Nat) (replacement text : List Char) : List Char :=
  replaceRunsFrom accepts least replacement [] text

/-- `str.strip(chars)`. -/
def stripOf (accepts : Char → Bool) (text : List Char) : List Char :=
  (text.dropWhile accepts).rdropWhile accepts

/-- `collapse`: every run of whitespace is one blank, and none is left at the ends. -/
def collapse (text : String) : String :=
  String.ofList (stripChars (replaceRuns isSpace 1 [' '] text.toList))

theorem length_replaceRun_le {replacement : List Char} (short : replacement.length ≤ 1)
    (least : Nat) (run : List Char) : (replaceRun least replacement run).length ≤ run.length := by
  rw [replaceRun]
  split
  · exact le_rfl
  · next long =>
      have nonempty : run ≠ [] := fun none => long (Or.inl none)
      have positive := List.length_pos_iff.mpr nonempty
      omega

theorem length_replaceRunsFrom_le {accepts : Char → Bool} {least : Nat} {replacement : List Char}
    (short : replacement.length ≤ 1) (run text : List Char) :
    (replaceRunsFrom accepts least replacement run text).length ≤ run.length + text.length := by
  induction text generalizing run with
  | nil => exact length_replaceRun_le short least run
  | cons char rest ih =>
      rw [replaceRunsFrom]
      split
      · have later := ih (run ++ [char])
        simp only [List.length_append, List.length_cons, List.length_nil] at later ⊢
        omega
      · have ended := length_replaceRun_le short least run
        have later := ih []
        simp only [List.length_append, List.length_cons, List.length_nil] at later ⊢
        omega

/-- Collapsing whitespace makes no text longer. -/
theorem length_collapse_le (text : String) : (collapse text).length ≤ text.length := by
  have shorter : (replaceRuns isSpace 1 [' '] text.toList).length ≤ 0 + text.toList.length :=
    length_replaceRunsFrom_le le_rfl [] text.toList
  have trimmed := (stripChars_within (replaceRuns isSpace 1 [' '] text.toList)).length_le
  rw [collapse, String.length_ofList]
  rw [Nat.zero_add, String.length_toList] at shorter
  exact trimmed.trans shorter

theorem replaceRunsFrom_of_visible {accepts : Char → Bool} {text : List Char}
    (visible : ∀ char ∈ text, accepts char = false) (least : Nat) (replacement : List Char) :
    replaceRunsFrom accepts least replacement [] text = text := by
  induction text with
  | nil => simp [replaceRunsFrom, replaceRun]
  | cons char rest ih =>
      rw [List.forall_mem_cons] at visible
      rw [replaceRunsFrom, if_neg (by rw [visible.1]; exact Bool.false_ne_true), ih visible.2]
      simp [replaceRun]

theorem stripChars_of_visible {chars : List Char} (visible : ∀ char ∈ chars, isSpace char = false) :
    stripChars chars = chars := by
  have dropped : chars.dropWhile isSpace = chars := by
    cases chars with
    | nil => rfl
    | cons first rest => rw [List.dropWhile_cons_of_neg (by simp [visible first])]
  rw [stripChars, dropped, List.rdropWhile_eq_self_iff]
  intro nonempty
  rw [visible _ (List.getLast_mem nonempty)]
  exact Bool.false_ne_true

/-- Text without whitespace is left as it is. -/
theorem collapse_of_visible {text : String} (visible : ∀ char ∈ text.toList, isSpace char = false) :
    collapse text = text := by
  rw [collapse, replaceRuns, replaceRunsFrom_of_visible visible, stripChars_of_visible visible,
    String.ofList_toList]

end AgentRank.Text
