import GroupUnroll.Matching.Automaton

/-! # Programs for matching by backtracking

An expression that is not regular becomes a list of instructions. A fork goes on in one place and
keeps the other as an alternative for when matching fails later. Distances are relative, so the
instructions of a part do not depend on where it stands.

Regular parts become automata, each of which answers with one match of its own and has no
alternatives. A part may only become an automaton if nothing after it can ask for another match, or
if its width is fixed; a part for which something can is called exposed.
-/

namespace GroupUnroll.Matching

/-- One instruction. -/
inductive Instruction
  /-- Take one character of the set. -/
  | take (set : CharSet)
  /-- Go on only where the condition holds. -/
  | require (condition : Condition)
  /-- Record the position as an end. -/
  | record (index : Nat)
  /-- Go on with the next instruction and keep the one `skip` further as an alternative, or the other
  way round. -/
  | fork (skip : Nat) (nextFirst : Bool)
  /-- Go on `skip` instructions further. -/
  | jump (skip : Nat)
  /-- Go on `back` instructions earlier. -/
  | back (back : Nat)
  /-- Go on `back` instructions earlier and keep the next instruction as an alternative, or the other
  way round. -/
  | again (back : Nat) (backFirst : Bool)
  /-- Start to count the rounds of an iteration. -/
  | startRounds
  /-- Go on with one more round, or `skip` instructions further if the count is at `max`. Between the
  bounds one way is kept as an alternative for the other. -/
  | round (min : Nat) (max : Option Nat) (skip : Nat) (greedy : Bool)
  /-- The same without an upper bound, for rounds that may take nothing: fail if the last round did,
  once there are more than `min`. -/
  | advancingRound (min skip : Nat) (greedy : Bool)
  /-- Go back so many characters. -/
  | stepBack (count : Nat)
  /-- Remember the position. -/
  | keepPosition
  /-- Return to the position remembered last. -/
  | restorePosition
  /-- Remember the alternatives. -/
  | mark
  /-- Forget the alternatives met since the mark. -/
  | commit
  /-- Remember the alternatives, and keep the instruction `skip` further as one. -/
  | deny (skip : Nat)
  /-- Forget the alternatives met since the denial, its own one too, and fail. -/
  | refute
  /-- Go on behind the match of an automaton, and set or take back the ends of some slots. -/
  | consult (automaton : Automaton) (slots : List Nat)

namespace Instruction

/-- Run one of some parts, the first one first. -/
def choice : List (List Instruction) → List Instruction
  | [] => []
  | [part] => part
  | part :: parts =>
    let others := choice parts
    .fork (part.length + 2) true :: (part ++ .jump (others.length + 1) :: others)

/-- Run a part at most once. -/
def optional (part : List Instruction) (greedy : Bool) : List Instruction :=
  .fork (part.length + 1) greedy :: part

/-- Run a part any number of times. -/
def anyNumber (part : List Instruction) (greedy : Bool) : List Instruction :=
  .fork (part.length + 2) greedy :: (part ++ [.back (part.length + 1)])

/-- Run a part once or more. -/
def onceOrMore (part : List Instruction) (greedy : Bool) : List Instruction :=
  part ++ [.again part.length greedy]

/-- Run a part and count the rounds. -/
def counted (part : List Instruction) (greedy : Bool) (min : Nat) (max : Option Nat) :
    List Instruction :=
  .startRounds :: .round min max (part.length + 2) greedy :: (part ++ [.back (part.length + 1)])

/-- Run a part and count the rounds, which may take nothing. -/
def advancing (part : List Instruction) (greedy : Bool) (min : Nat) : List Instruction :=
  .startRounds :: .advancingRound min (part.length + 2) greedy ::
    (part ++ [.back (part.length + 1)])

/-- Run a part and give up its alternatives. -/
def atomic (part : List Instruction) : List Instruction := .mark :: (part ++ [.commit])

/-- Run a part and return to where it started, or go on there only if the part fails. -/
def look (negated : Bool) (part : List Instruction) : List Instruction :=
  if negated then .deny (part.length + 2) :: (part ++ [.refute])
  else .keepPosition :: (part ++ [.restorePosition])

/-- Hand over to the automaton of some regular parts. -/
def regular (parts : List Expr) : Except Fault (List Instruction) :=
  if parts.isEmpty then .ok []
  else do
    let expr := Expr.ofParts parts
    return [.consult (← Automaton.ofExpr expr) expr.slots]

end Instruction

namespace Expr

/-- Whether a part can become an automaton wherever it stands. -/
def isSettled (expr : Expr) : Bool := expr.isRegular && expr.hasFixedWidth

mutual

/-- The instructions that match an expression. -/
def instructions (exposed : Bool) : Expr → Except Fault (List Instruction)
  | .empty => .ok []
  | .chars set => .ok [.take set]
  | .holds condition => .ok [.require condition]
  | .sequence parts =>
    if !exposed && parts.all isRegular then Instruction.regular parts
    else do
      let leading := (parts.takeWhile isSettled).length
      let trailing := ((parts.drop leading).reverse.takeWhile fun part =>
        part.isSettled || (!exposed && part.isRegular)).length
      let middle := parts.length - trailing
      let before ← Instruction.regular (parts.take leading)
      let between ← instructionsOfSome leading middle parts
      return before ++ between ++ (← Instruction.regular (parts.drop middle))
  | .choice branches =>
    if !exposed && branches.all isRegular then Instruction.regular [.choice branches]
    else do return Instruction.choice (← instructionsOfAll exposed branches)
  | .capture slot body =>
    if !exposed && body.isRegular then Instruction.regular [.capture slot body]
    else do return .record (2 * slot) :: (← instructions exposed body) ++ [.record (2 * slot + 1)]
  | .iterate body min max greedy =>
    if !exposed && body.isRegular then Instruction.regular [.iterate body min max greedy]
    else do
      let isOptional := min = 0 ∧ max = some 1
      let part ← instructions (exposed || !isOptional) body
      if isOptional then return Instruction.optional part greedy
      else if max = none ∧ body.minWidth = 0 then return Instruction.advancing part greedy min
      else if max = none ∧ min = 0 then return Instruction.anyNumber part greedy
      else if max = none ∧ min = 1 then return Instruction.onceOrMore part greedy
      else return Instruction.counted part greedy min max
  | .atomic body => do return Instruction.atomic (← instructions false body)
  | .look false negated body => do return Instruction.look negated (← instructions false body)
  | .look true negated body => do
    match body with
    | .choice branches =>
      if !body.hasFixedWidth then
        let parts := (← instructionsBehind branches).map (Instruction.look negated)
        return if negated then parts.flatten else Instruction.choice parts
    | _ => pure ()
    if !body.hasFixedWidth then throw .openLookbehind
    return Instruction.look negated (.stepBack body.minWidth :: (← instructions false body))

/-- The instructions of the parts of a sequence from one number to before another; something after
them can fail. -/
def instructionsOfSome : (first last : Nat) → List Expr → Except Fault (List Instruction)
  | _, _, [] => .ok []
  | _, 0, _ => .ok []
  | first + 1, last + 1, _ :: rest => instructionsOfSome first last rest
  | 0, last + 1, part :: rest => do
    return (← instructions true part) ++ (← instructionsOfSome 0 last rest)

/-- The instructions of each of some expressions. -/
def instructionsOfAll (exposed : Bool) : List Expr → Except Fault (List (List Instruction))
  | [] => .ok []
  | expr :: rest => do
    return (← instructions exposed expr) :: (← instructionsOfAll exposed rest)

/-- The instructions that look for each of some expressions behind a position. -/
def instructionsBehind : List Expr → Except Fault (List (List Instruction))
  | [] => .ok []
  | expr :: rest => do
    if !expr.hasFixedWidth then throw .openLookbehind
    return (.stepBack expr.minWidth :: (← instructions false expr)) :: (← instructionsBehind rest)

end

end Expr

/-- A pattern ready for matching. -/
inductive Program
  /-- The pattern is regular. -/
  | regular (automaton : Automaton)
  /-- The pattern is matched by backtracking and has so many slots. -/
  | backtracking (code : Array Instruction) (slots : Nat)

namespace Program

/-- The instructions that match an expression as the group of slot zero at the first position where
it matches. -/
def searching (expr : Expr) : Except Fault (List Instruction) := do
  let skip := Instruction.anyNumber [.take .all] false
  return skip ++ (← (Expr.capture 0 expr).instructions true)

/-- The program of an expression. -/
def ofExpr (expr : Expr) : Except Fault Program := do
  if expr.isRegular then return .regular (← Automaton.ofExpr expr)
  else return .backtracking (← searching expr).toArray (expr.slots.foldl Nat.max 0 + 1)

end Program

end GroupUnroll.Matching
