import GroupUnroll.Matching.Footprint
import Std.Data.HashSet

/-! # Automata of regular expressions

A regular expression becomes a list of steps that run one after another. A fork goes on in one place
and keeps the other as an alternative for when matching fails later. Distances are relative, so the
steps of a part can be repeated as they are.

What happens after a place and a position does not depend on how they were reached. So no such pair
is tried twice, and an iteration that comes back to its start without taking a character ends there.
-/

namespace GroupUnroll.Matching

/-- Where groups end: the ends recorded so far, latest first. The ends of the group of slot `n` have
the numbers `2 * n` and `2 * n + 1`; an end without a position was taken back. -/
abbrev Ends := List (Nat × Option Nat)

/-- The ends of the group of a slot, if it takes part in the match. -/
def Ends.ofSlot? (ends : Ends) (slot : Nat) : Option (Nat × Nat) := do
  return (← (← ends.lookup (2 * slot)), ← (← ends.lookup (2 * slot + 1)))

/-- One step of an automaton. -/
inductive Step
  /-- Take one character of the set. -/
  | take (set : CharSet)
  /-- Go on only where the condition holds. -/
  | require (condition : Condition)
  /-- Record the position as an end. -/
  | record (index : Nat)
  /-- Go on with the next step and keep the one `skip` further as an alternative, or the other way
  round. -/
  | fork (skip : Nat) (nextFirst : Bool)
  /-- Go on `skip` steps further. -/
  | jump (skip : Nat)
  /-- Go on `back` steps earlier and keep the next step as an alternative, or the other way round. -/
  | again (back : Nat) (backFirst : Bool)

namespace Step

/-- Run one of some parts, the first one first; and the number of steps. -/
def choice (parts : List (List Step)) : List Step × Nat :=
  match parts with
  | [] => ([], 0)
  | [part] => (part, part.length)
  | part :: parts =>
    let (others, size) := choice parts
    (.fork (part.length + 2) true :: (part ++ .jump (size + 1) :: others), part.length + 2 + size)

/-- Run a part at most `count` times, stopping at the first time it is not run. -/
def upTo (part : List Step) (greedy : Bool) (count : Nat) : List Step :=
  let size := part.length + 1
  (List.range count).flatMap fun index => .fork ((count - index) * size) greedy :: part

/-- Run a part once or more. -/
def onceOrMore (part : List Step) (greedy : Bool) : List Step :=
  part ++ [.again part.length greedy]

/-- Run a part any number of times. -/
def anyNumber (part : List Step) (greedy : Bool) : List Step :=
  .fork (part.length + 2) greedy :: onceOrMore part greedy

/-- Run a part a number of times within bounds. -/
def iterate (part : List Step) (greedy : Bool) (min : Nat) : (max : Option Nat) → List Step
  | some max => (List.replicate min part).flatten ++ upTo part greedy (max - min)
  | none =>
    if min = 0 then anyNumber part greedy
    else (List.replicate (min - 1) part).flatten ++ onceOrMore part greedy

end Step

mutual

/-- The steps that match a regular expression. -/
def Expr.steps : Expr → List Step
  | .empty | .look .. => []
  | .chars set => [.take set]
  | .holds condition => [.require condition]
  | .sequence parts => (stepsOfAll parts).flatten
  | .choice branches => (Step.choice (stepsOfAll branches)).1
  | .capture slot body => .record (2 * slot) :: (body.steps ++ [.record (2 * slot + 1)])
  | .iterate body min max greedy =>
    let (min, max) := body.usefulBounds min max
    Step.iterate body.steps greedy min max
  | .atomic body => body.steps

/-- The steps of each of some regular expressions. -/
def stepsOfAll : List Expr → List (List Step)
  | [] => []
  | expr :: rest => expr.steps :: stepsOfAll rest

end

/-- A place in an automaton, a position in the text, and the ends recorded on the way. -/
structure Walk where
  place : Nat
  position : Nat
  ends : Ends

/-- The steps of a regular expression, ready to be run. -/
structure Automaton where
  code : Array Step

/-- The places and positions that have been tried. -/
abbrev Tried := Std.HashSet (Nat × Nat)

namespace Automaton

/-- The automaton of a regular expression; slot zero is the whole match. -/
def ofExpr (expr : Expr) : Except Fault Automaton := do
  expr.check
  return ⟨(Expr.capture 0 expr).steps.toArray⟩

/-- The slots of the groups that the automaton records, numbered from zero. -/
def slots (automaton : Automaton) : Nat :=
  automaton.code.foldl (fun slots step => match step with
    | .record index => slots.max (index / 2 + 1)
    | _ => slots) 0

/-- Where a step leads, the preferred way first. -/
def follow (text : Array Char) (walk : Walk) : Step → List Walk
  | .take set =>
    if text[walk.position]?.any set.contains then
      [{ walk with place := walk.place + 1, position := walk.position + 1 }]
    else []
  | .require condition =>
    if condition.holdsAt text walk.position then [{ walk with place := walk.place + 1 }] else []
  | .record index =>
    [{ walk with place := walk.place + 1, ends := (index, some walk.position) :: walk.ends }]
  | .fork skip nextFirst =>
    let next := { walk with place := walk.place + 1 }
    let further := { walk with place := walk.place + skip }
    if nextFirst then [next, further] else [further, next]
  | .jump skip => [{ walk with place := walk.place + skip }]
  | .again back backFirst =>
    let next := { walk with place := walk.place + 1 }
    let earlier := { walk with place := walk.place - back }
    if backFirst then [earlier, next] else [next, earlier]

/-- Run the first of some walks, and the others when it fails, for at most `limit` steps. The
result is the walk that comes to the end, if one does, and what has been tried. -/
def run (automaton : Automaton) (text : Array Char) :
    (limit : Nat) → List Walk → Tried → Option Walk × Tried
  | 0, _, tried => (none, tried)
  | _, [], tried => (none, tried)
  | limit + 1, walk :: others, tried =>
    match automaton.code[walk.place]? with
    | none => (some walk, tried)
    | some step =>
      let (known, tried) := tried.containsThenInsert (walk.place, walk.position)
      if known then automaton.run text limit others tried
      else automaton.run text limit (follow text walk step ++ others) tried

/-- A number of steps that no run reaches: every pair of a place and a position is followed at most
once, to at most two walks. -/
def stepLimit (automaton : Automaton) (text : Array Char) : Nat :=
  2 * (automaton.code.size + 1) * (text.size + 2)

/-- The match that starts at a position, and what has been tried. -/
def matchAt (automaton : Automaton) (text : Array Char) (position : Nat) (tried : Tried) :
    Option Walk × Tried :=
  automaton.run text (automaton.stepLimit text) [⟨0, position, []⟩] tried

/-- The first match that starts at one of the next `starts` positions. -/
def search (automaton : Automaton) (text : Array Char) :
    (starts : Nat) → (position : Nat) → Tried → Option Walk
  | 0, _, _ => none
  | starts + 1, position, tried =>
    match automaton.matchAt text position tried with
    | (some walk, _) => some walk
    | (none, tried) => automaton.search text starts (position + 1) tried

end Automaton

end GroupUnroll.Matching
