import AgentRank.Transition.Run
import Mathlib.Data.List.Basic
import Mathlib.Order.MinMax

/-!
# Scanning for nesting

This module models the scan that bounds how deep the brackets of a body nest.  The scan follows
quoting and escaping, and stops as soon as the bound is passed.

The scan is over numbers, so that the bytes of a body and the code points of a text are scanned
by the same rule.  A text passes with some levels when the scan comes out of it where it went in
and met so many open brackets on the way.
-/

namespace AgentRank.Limits

open Transition

/-- `_QUOTE`. -/
def quote : Nat := 34

/-- `_BACKSLASH`. -/
def backslash : Nat := 92

/-- `_OPEN`. -/
def opening : List Nat := [91, 123]

/-- `_CLOSE`. -/
def closing : List Nat := [93, 125]

/-- Where the scan stands between two bytes. -/
structure Scan where
  depth : Nat := 0
  inString : Bool := false
  escaped : Bool := false
deriving DecidableEq

namespace Scan

/-- A byte inside of a string. -/
def inText (byte : Nat) (scan : Scan) : Scan :=
  if scan.escaped then { scan with escaped := false }
  else if byte = backslash then { scan with escaped := true }
  else if byte = quote then { scan with inString := false }
  else scan

/-- What the scan does with a byte, apart from the bound. -/
def step (byte : Nat) (scan : Scan) : Scan :=
  if scan.inString then scan.inText byte
  else if byte = quote then { scan with inString := true }
  else if byte ∈ opening then { scan with depth := scan.depth + 1 }
  else if byte ∈ closing then { scan with depth := scan.depth - 1 }
  else scan

end Scan

/-- The scan from where it stands. -/
def withinDepthFrom (maxDepth : Nat) : Scan → List Nat → Bool
  | _, [] => true
  | scan, byte :: rest =>
      if scan.inString then withinDepthFrom maxDepth (scan.inText byte) rest
      else if byte = quote then withinDepthFrom maxDepth { scan with inString := true } rest
      else if byte ∈ opening then
        if maxDepth < scan.depth + 1 then false
        else withinDepthFrom maxDepth { scan with depth := scan.depth + 1 } rest
      else if byte ∈ closing then
        withinDepthFrom maxDepth { scan with depth := scan.depth - 1 } rest
      else withinDepthFrom maxDepth scan rest

/-- `_within_depth`. -/
def withinDepth (body : List Nat) (maxDepth : Nat) : Bool :=
  withinDepthFrom maxDepth {} body

/-- How deep the scan comes. -/
def peak : Scan → List Nat → Nat
  | scan, [] => scan.depth
  | scan, byte :: rest => max scan.depth (peak (scan.step byte) rest)

theorem depth_le_peak (scan : Scan) (bytes : List Nat) : scan.depth ≤ peak scan bytes := by
  cases bytes with
  | nil => exact le_rfl
  | cons byte rest => exact le_max_left _ _

theorem peak_append (scan : Scan) (first second : List Nat) :
    peak scan (first ++ second) =
      max (peak scan first) (peak (run Scan.step scan first) second) := by
  induction first generalizing scan with
  | nil => exact (max_eq_right (depth_le_peak _ _)).symm
  | cons byte rest ih => rw [List.cons_append, peak, ih, peak, run_cons, max_assoc]

theorem depth_inText (byte : Nat) (scan : Scan) : (scan.inText byte).depth = scan.depth := by
  rw [Scan.inText]
  split
  · rfl
  · split
    · rfl
    · split <;> rfl

/-- The scan accepts exactly what comes no deeper than the bound. -/
theorem withinDepthFrom_iff {maxDepth : Nat} {scan : Scan} {bytes : List Nat}
    (within : scan.depth ≤ maxDepth) :
    withinDepthFrom maxDepth scan bytes = true ↔ peak scan bytes ≤ maxDepth := by
  induction bytes generalizing scan with
  | nil => exact ⟨fun _ => within, fun _ => rfl⟩
  | cons byte rest ih =>
      rw [withinDepthFrom, peak, max_le_iff, and_iff_right within, Scan.step]
      split
      · exact ih (by rwa [depth_inText])
      · split
        · exact ih within
        · split
          · split
            · next deep =>
                have reached := depth_le_peak { scan with depth := scan.depth + 1 } rest
                simp only [Bool.false_eq_true, false_iff, not_le]
                exact deep.trans_le reached
            · next shallow => exact ih (Nat.not_lt.mp shallow)
          · split
            · exact ih ((Nat.sub_le _ _).trans within)
            · exact ih within

/-- `_within_depth` bounds the deepest place. -/
theorem withinDepth_iff (body : List Nat) (maxDepth : Nat) :
    withinDepth body maxDepth = true ↔ peak {} body ≤ maxDepth :=
  withinDepthFrom_iff (Nat.zero_le _)

/-- The scan outside of a string. -/
def outside (depth : Nat) : Scan where
  depth := depth

/-- The scan goes through a text and comes out where it went in. -/
def Passes (text : List Nat) (levels : Nat) : Prop :=
  ∀ depth, run Scan.step (outside depth) text = outside depth ∧
    peak (outside depth) text = depth + levels

theorem passes_nil : Passes [] 0 :=
  fun _ => ⟨rfl, rfl⟩

theorem Passes.append {first second : List Nat} {levels more : Nat} (passes : Passes first levels)
    (also : Passes second more) : Passes (first ++ second) (max levels more) := by
  intro depth
  obtain ⟨stays, deep⟩ := passes depth
  obtain ⟨alsoStays, alsoDeep⟩ := also depth
  constructor
  · rw [run_append, stays, alsoStays]
  · rw [peak_append, stays, deep, alsoDeep, Nat.add_max_add_left]

/-- The numbers that the scan passes over outside of a string. -/
def IsQuiet (byte : Nat) : Prop :=
  byte ≠ quote ∧ byte ∉ opening ∧ byte ∉ closing

theorem step_of_isQuiet {byte : Nat} (quiet : IsQuiet byte) {scan : Scan}
    (unquoted : scan.inString = false) : scan.step byte = scan := by
  rw [Scan.step, if_neg (by rw [unquoted]; exact Bool.false_ne_true), if_neg quiet.1,
    if_neg quiet.2.1, if_neg quiet.2.2]

theorem passes_of_isQuiet {text : List Nat} (quiet : ∀ byte ∈ text, IsQuiet byte) :
    Passes text 0 := by
  intro depth
  induction text with
  | nil => exact ⟨rfl, rfl⟩
  | cons byte rest ih =>
      rw [List.forall_mem_cons] at quiet
      have stays := step_of_isQuiet quiet.1 (show (outside depth).inString = false from rfl)
      rw [run_cons, peak, stays]
      exact ⟨(ih quiet.2).1, by rw [(ih quiet.2).2]; exact max_self _⟩

/-- Brackets add a level. -/
theorem Passes.bracketed {inner : List Nat} {levels first last : Nat} (passes : Passes inner levels)
    (opens : first ∈ opening) (closes : last ∈ closing) :
    Passes (first :: (inner ++ [last])) (levels + 1) := by
  intro depth
  have opened : (outside depth).step first = outside (depth + 1) := by
    have notQuote : first ≠ quote := by
      rintro rfl
      revert opens
      decide
    rw [Scan.step, if_neg (by exact Bool.false_ne_true), if_neg notQuote, if_pos opens]
    rfl
  have closed : (outside (depth + 1)).step last = outside depth := by
    have notQuote : last ≠ quote := by
      rintro rfl
      revert closes
      decide
    have notOpening : last ∉ opening := by
      intro also
      simp only [opening, closing, List.mem_cons, List.not_mem_nil, or_false] at also closes
      omega
    rw [Scan.step, if_neg (by exact Bool.false_ne_true), if_neg notQuote, if_neg notOpening,
      if_pos closes]
    rfl
  obtain ⟨stays, deep⟩ := passes (depth + 1)
  constructor
  · rw [run_cons, opened, run_append, stays, run_cons, closed, run_nil]
  · rw [peak, opened, peak_append, stays, deep, peak, closed, peak]
    simp only [outside]
    omega

end AgentRank.Limits
