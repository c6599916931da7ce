import GroupUnroll.Matching.Program

/-! # Running instructions

A thread runs a program from one position on. When it fails, the alternative kept last goes on in its
place, with everything as it was when it was kept. The run ends when a thread comes to the end of the
program, when there is no alternative left, or after too many failures.
-/

namespace GroupUnroll.Matching

/-- An iteration that is under way: the rounds begun, and where the last of them began that may
take nothing. -/
structure Rounds where
  count : Nat
  begun : Nat

/-- Where a match stands: the next instruction, the position, the ends recorded so far, the
iterations under way, the positions to return to, and the numbers of alternatives to go back to;
latest first. -/
structure Thread where
  next : Nat
  position : Nat
  ends : Ends
  rounds : List Rounds
  kept : List Nat
  marks : List Nat

/-- A thread before the first instruction. -/
def Thread.start (position : Nat) : Thread := ⟨0, position, [], [], [], []⟩

/-- The thread behind the next instruction. -/
def Thread.step (thread : Thread) : Thread := { thread with next := thread.next + 1 }

/-- The thread some instructions further. -/
def Thread.skip (thread : Thread) (count : Nat) : Thread :=
  { thread with next := thread.next + count }

/-- The alternatives kept, latest first, and their number. -/
structure Alternatives where
  threads : List Thread
  count : Nat

namespace Alternatives

/-- No alternatives. -/
def empty : Alternatives := ⟨[], 0⟩

/-- Keep another alternative. -/
def keep (alternatives : Alternatives) (thread : Thread) : Alternatives :=
  ⟨thread :: alternatives.threads, alternatives.count + 1⟩

/-- Forget the latest alternatives until so many are left. -/
def cutTo (alternatives : Alternatives) (count : Nat) : Alternatives :=
  ⟨alternatives.threads.drop (alternatives.count - count), alternatives.count.min count⟩

end Alternatives

/-- What an instruction leads to. -/
inductive Move
  | proceed (thread : Thread) (alternatives : Alternatives)
  | fail (alternatives : Alternatives)

namespace Move

/-- Go on with one of two threads and keep the other. -/
def prefer (first : Bool) (one other : Thread) (alternatives : Alternatives) : Move :=
  if first then .proceed one (alternatives.keep other)
  else .proceed other (alternatives.keep one)

end Move

namespace Thread

/-- Take the ends of some slots from the match of an automaton. -/
def withEnds (thread : Thread) (slots : List Nat) (found : Ends) : Thread :=
  let ends := slots.flatMap fun slot =>
    let both := found.ofSlot? slot
    [(2 * slot, both.map Prod.fst), (2 * slot + 1, both.map Prod.snd)]
  { thread with ends := ends ++ thread.ends }

/-- Run one instruction. -/
def run (text : Array Char) (thread : Thread) (alternatives : Alternatives) : Instruction → Move
  | .take set =>
    if text[thread.position]?.any set.contains then
      .proceed { thread.step with position := thread.position + 1 } alternatives
    else .fail alternatives
  | .require condition =>
    if condition.holdsAt text thread.position then .proceed thread.step alternatives
    else .fail alternatives
  | .record index =>
    .proceed { thread.step with ends := (index, some thread.position) :: thread.ends } alternatives
  | .fork skip nextFirst => .prefer nextFirst thread.step (thread.skip skip) alternatives
  | .jump skip => .proceed (thread.skip skip) alternatives
  | .back back => .proceed { thread with next := thread.next - back } alternatives
  | .again back backFirst =>
    .prefer backFirst { thread with next := thread.next - back } thread.step alternatives
  | .startRounds => .proceed { thread.step with rounds := ⟨0, 0⟩ :: thread.rounds } alternatives
  | .round min max skip greedy =>
    match thread.rounds with
    | [] => .fail alternatives
    | current :: outer =>
      let leaving := { thread.skip skip with rounds := outer }
      let going := { thread.step with rounds := ⟨current.count + 1, current.begun⟩ :: outer }
      if max = some current.count then .proceed leaving alternatives
      else if current.count < min then .proceed going alternatives
      else .prefer greedy going leaving alternatives
  | .advancingRound min skip greedy =>
    match thread.rounds with
    | [] => .fail alternatives
    | current :: outer =>
      let leaving := { thread.skip skip with rounds := outer }
      let going (begun : Nat) := { thread.step with rounds := ⟨current.count + 1, begun⟩ :: outer }
      if min < current.count ∧ current.begun = thread.position then .fail alternatives
      else if current.count < min then .proceed (going current.begun) alternatives
      else .prefer greedy (going thread.position) leaving alternatives
  | .stepBack count =>
    if count ≤ thread.position then
      .proceed { thread.step with position := thread.position - count } alternatives
    else .fail alternatives
  | .keepPosition => .proceed { thread.step with kept := thread.position :: thread.kept } alternatives
  | .restorePosition =>
    match thread.kept with
    | [] => .fail alternatives
    | position :: kept => .proceed { thread.step with position, kept } alternatives
  | .mark =>
    .proceed { thread.step with marks := alternatives.count :: thread.marks } alternatives
  | .commit =>
    match thread.marks with
    | [] => .fail alternatives
    | count :: marks => .proceed { thread.step with marks } (alternatives.cutTo count)
  | .deny skip =>
    .proceed { thread.step with marks := alternatives.count :: thread.marks }
      (alternatives.keep (thread.skip skip))
  | .refute =>
    match thread.marks with
    | [] => .fail alternatives
    | count :: _ => .fail (alternatives.cutTo count)
  | .consult automaton slots =>
    match automaton.matchAt text thread.position ∅ with
    | (none, _) => .fail alternatives
    | (some walk, _) =>
      .proceed ({ thread.step with position := walk.position }.withEnds slots walk.ends) alternatives

end Thread

/-- How a run ends. -/
inductive Verdict
  | matched (ends : Ends)
  | failed
  | gaveUp

/-- The greatest number of times that a run falls back on an alternative. -/
def failureLimit : Nat := 1000000

/-- The greatest number of alternatives that a run keeps. -/
def alternativeLimit : Nat := 1000000

/-- Run a thread, and its alternatives when it fails, for at most `limit` instructions. -/
def runCode (code : Array Instruction) (text : Array Char) :
    (limit failures : Nat) → Thread → Alternatives → Verdict
  | 0, _, _, _ => .gaveUp
  | limit + 1, failures, thread, alternatives =>
    match code[thread.next]? with
    | none => .matched thread.ends
    | some instruction =>
      match thread.run text alternatives instruction with
      | .proceed thread alternatives =>
        if alternativeLimit < alternatives.count then .gaveUp
        else runCode code text limit failures thread alternatives
      | .fail ⟨[], _⟩ => .failed
      | .fail ⟨thread :: threads, count⟩ =>
        if failures = failureLimit then .gaveUp
        else runCode code text limit (failures + 1) thread ⟨threads, count - 1⟩

end GroupUnroll.Matching
