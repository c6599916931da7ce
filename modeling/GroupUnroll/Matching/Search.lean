import GroupUnroll.Matching.Reading
import GroupUnroll.Matching.Thread

/-! # Searching a text

A search finds the first match at or after a position. A search with an automaton always comes to an
end, and one by backtracking may be given up.
-/

namespace GroupUnroll.Matching

/-- A match: its ends, and the ends of its slots. -/
structure Found where
  start : Nat
  stop : Nat
  slots : List (Option (Nat × Nat))

namespace Found

/-- The match with some recorded ends, if it is complete. -/
def ofEnds? (slots : Nat) (ends : Ends) : Option Found := do
  let (start, stop) ← ends.ofSlot? 0
  return ⟨start, stop, (List.range slots).map ends.ofSlot?⟩

/-- Where the search for the next match starts. -/
def resume (found : Found) : Nat :=
  if found.start = found.stop then found.stop + 1 else found.stop

end Found

namespace Program

/-- The program of a pattern. -/
def ofPattern (pattern : Text) : Except Fault Program := do
  Program.ofExpr (← Expr.ofPattern pattern)

/-- More instructions than any run comes to in practice. -/
def instructionLimit : Nat := 0x4000000000000000

/-- The first match at or after a position; an error if the search was given up. -/
def find? (program : Program) (text : Array Char) (position : Nat) : Except Unit (Option Found) :=
  match program with
  | .regular automaton =>
    match automaton.search text (text.size + 1 - position) position ∅ with
    | none => .ok none
    | some walk => .ok (Found.ofEnds? automaton.slots walk.ends)
  | .backtracking code slots =>
    match runCode code text instructionLimit 0 (.start position) .empty with
    | .matched ends => .ok (Found.ofEnds? slots ends)
    | .failed => .ok none
    | .gaveUp => .error ()

/-- All matches from a position on, each found after the end of the one before. After an empty match the
search goes on one character further, and an empty match at the end of the one before is left
out. -/
def findAll (program : Program) (text : Array Char) (position : Nat) (lastEnd : Option Nat) :
    Except Unit (List Found) := do
  if position ≤ text.size then
    match ← program.find? text position with
    | none => return []
    | some found =>
      if position < found.resume then
        if found.start = found.stop ∧ lastEnd = some found.stop then
          program.findAll text found.resume lastEnd
        else
          return found :: (← program.findAll text found.resume (some found.stop))
      else return [found]
  else return []
termination_by text.size + 1 - position
decreasing_by all_goals omega

end Program

end GroupUnroll.Matching
