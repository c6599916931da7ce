import GroupUnroll.Captures
import GroupUnroll.Matching.Search
import GroupUnroll.Unrolling.Report

/-! # Matching with unrolled patterns

A matcher is a pattern together with its unrolled text, which is what the matching engine runs. A
pattern may also be compiled as it stands; its options then become part of its source.
-/

namespace GroupUnroll

/-- The engine's program for a pattern. -/
def compilePattern (pattern : Text) : Except Refusal Matching.Program :=
  match Matching.Program.ofPattern pattern with
  | .ok program => .ok program
  | .error fault => .error (.notAccepted fault.message.toList)

/-- A pattern that the engine has accepted as it stands, with its options. -/
structure FlaggedPattern where
  pattern : Text
  flags : FlagSet
  program : Matching.Program

namespace FlaggedPattern

/-- The text that carries the options inline. -/
def inlined (flags : FlagSet) (pattern : Text) : Text := flags.inlineSetting ++ pattern

/-- Compile a pattern with options. -/
def compile (pattern : Text) (flags : FlagSet) : Except Refusal FlaggedPattern := do
  return ⟨pattern, flags, ← compilePattern (inlined flags pattern)⟩

/-- The source of the pattern, which is the text given to the engine. -/
def source (flagged : FlaggedPattern) : Text := inlined flagged.flags flagged.pattern

end FlaggedPattern

/-- A pattern and its unrolled text, ready for matching. -/
structure Matcher where
  source : Text
  unrolled : Text
  program : Matching.Program

namespace Matcher

/-- Unroll and compile a pattern. -/
def ofPattern (table : AliasTable) (ceiling : UInt64) (pattern : Text) : Except Refusal Matcher := do
  let unrolled ← unrollPattern table ceiling pattern
  return ⟨pattern, unrolled, ← compilePattern unrolled⟩

/-- The result of a search that may have been given up. -/
def answer {α : Type} (searched : Except Unit α) : Except Refusal α :=
  match searched with
  | .ok found => .ok found
  | .error () => .error (.gaveUp "too many alternatives tried".toList)

/-- The texts in the slots of a match. -/
def capturesOf (text : Array Char) (found : Matching.Found) : Captures :=
  .ofSlots (found.slots.map (Option.map fun (start, stop) => (text.extract start stop).toList))

/-- The captures of the first match. -/
def captures (matcher : Matcher) (text : Text) : Except Refusal Captures := do
  let text := text.toArray
  match ← answer (matcher.program.find? text 0) with
  | none => return .noMatch
  | some found => return capturesOf text found

/-- Whether the pattern matches anywhere. -/
def isMatch (matcher : Matcher) (text : Text) : Except Refusal Bool := do
  return (← matcher.captures text).isMatch

/-- The captures of all matches, none of which overlap. -/
def capturesAll (matcher : Matcher) (text : Text) : Except Refusal (List Captures) := do
  let text := text.toArray
  return (← answer (matcher.program.findAll text 0 none)).map (capturesOf text)

end Matcher

end GroupUnroll
