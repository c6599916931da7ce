import GroupUnroll.Matching.Expr
import GroupUnroll.Matching.Fault
import GroupUnroll.Text.ByteSequence

/-! # The size of the automata of regular expressions

A regular expression stands for two automata over bytes, one for reading a text forward and one for
reading it backward, in which every copy that an iteration asks for is there. An expression is
refused if either would be too large. Sizes are in bytes, and nothing is built to find them.
-/

namespace GroupUnroll.Matching

/-- The sizes of the two automata of an expression. -/
structure Footprint where
  forward : Nat
  backward : Nat

namespace Footprint

/-- The same number of bytes in both automata. -/
def bytes (count : Nat) : Footprint := ⟨count, count⟩

/-- The same number of states in both automata. -/
def states (count : Nat) : Footprint := bytes (32 * count)

/-- The same number of links from a state that branches. -/
def links (count : Nat) : Footprint := bytes (4 * count)

/-- The same number of links that are followed for some bytes only. -/
def transitions (count : Nat) : Footprint := bytes (8 * count)

/-- Two parts together. -/
def and (first second : Footprint) : Footprint :=
  ⟨first.forward + second.forward, first.backward + second.backward⟩

/-- Parts together. -/
def all (parts : List Footprint) : Footprint := parts.foldl and (bytes 0)

/-- A part so many times. -/
def times (count : Nat) (part : Footprint) : Footprint :=
  ⟨count * part.forward, count * part.backward⟩

/-- Sequences of bytes by their first range. -/
def groupByFirst : List ByteSequence → List (ByteRange × List ByteSequence)
  | [] => []
  | [] :: rest => groupByFirst rest
  | (range :: tail) :: rest =>
    match groupByFirst rest with
    | [] => [(range, [tail])]
    | (next, tails) :: groups =>
      if next = range then (range, tail :: tails) :: groups
      else (range, [tail]) :: (next, tails) :: groups

/-- What is left of sequences of bytes after each beginning that is not the whole of one. -/
def remainders : (length : Nat) → List ByteSequence → List (List ByteSequence)
  | 0, _ => []
  | length + 1, sequences =>
    match groupByFirst sequences with
    | [] => []
    | groups => sequences :: groups.flatMap fun (_, tails) => remainders length tails

/-- The number of ranges that a sequence does not share with the beginning of the one before. -/
def unshared : ByteSequence → ByteSequence → Nat
  | range :: rest, next :: following =>
    if range = next then unshared rest following else following.length + 1
  | _, sequence => sequence.length

/-- The automata of sequences of bytes. Forward, states with the same remainders are one; backward,
sequences share the states of a common beginning. -/
def ofSequences (sequences : List ByteSequence) : Footprint :=
  let branchings := (remainders 4 sequences).eraseDups
  let steps := (([] :: sequences).zipWith unshared sequences).foldl (· + ·) 0
  ⟨((states (branchings.length + 1)).and
      (transitions ((branchings.map fun rest => (groupByFirst rest).length).foldl (· + ·) 0))).forward,
    ((states (steps + 2)).and (links sequences.length)).backward⟩

/-- The automata of a set of characters. -/
def ofSet (set : CharSet) : Footprint :=
  match set.ranges with
  | [] => states 1
  | range :: rest =>
    if rest.isEmpty ∧ range.first = range.last then states (encodeCode range.first).length
    else if set.ranges.all (·.last < 0x80) then
      (states 2).and (transitions set.ranges.length)
    else ofSequences (set.ranges.flatMap CodeRange.byteSequences)

/-- The automata of a set, taken from a list if they are there. -/
def find (known : List (CharSet × Footprint)) (set : CharSet) : Footprint :=
  (known.lookup set).getD (ofSet set)

/-- The automata of a part that may be left out. -/
def optional (part : Footprint) : Footprint := ((states 1).and (links 2)).and part

/-- The automata of an iteration of a part that takes at least `width` characters. -/
def iterate (part : Footprint) (width min : Nat) (max : Option Nat) : Footprint :=
  match min, max with
  | 0, some 1 => (states 1).and part.optional
  | 0, none => if width = 0 then ((states 2).and (links 2)).and part.optional else part.optional
  | min, none => ((states 1).and (links 2)).and (part.times min)
  | min, some max =>
    if max = 0 then states 1
    else
      let least := if min = 0 then states 1 else part.times min
      if max ≤ min then least else (least.and (states 1)).and (part.optional.times (max - min))

/-- The greatest size of an automaton. -/
def limit : Nat := 10485760

/-- Whether both automata, with what surrounds every expression, are small enough. -/
def fits (part : Footprint) : Bool :=
  let around : Footprint := ⟨5 * 32 + 8, 3 * 32 + 8⟩
  (part.and around).forward ≤ limit && (part.and around).backward ≤ limit

end Footprint

namespace Expr

/-- The bounds of an iteration that make a difference: what takes nothing is run at most once. -/
def usefulBounds (body : Expr) (min : Nat) (max : Option Nat) : Nat × Option Nat :=
  if body.takesNothing then (min.min 1, some ((max.getD 1).min 1)) else (min, max)

mutual

/-- The automata of an expression, given those of the sets in it. -/
def footprint (ofSet : CharSet → Footprint) : Expr → Footprint
  | .empty | .holds _ | .look .. => .states 1
  | .chars set => ofSet set
  | .sequence parts => .all (footprints ofSet parts)
  | .choice branches =>
    ((Footprint.states 2).and (.links branches.length)).and (.all (footprints ofSet branches))
  | .capture _ body => Footprint.and ⟨(Footprint.states 2).forward, 0⟩ (body.footprint ofSet)
  | .iterate body min max _ =>
    let (min, max) := usefulBounds body min max
    (body.footprint ofSet).iterate body.minWidth min max
  | .atomic body => body.footprint ofSet

/-- The automata of expressions. -/
def footprints (ofSet : CharSet → Footprint) : List Expr → List Footprint
  | [] => []
  | expr :: rest => expr.footprint ofSet :: footprints ofSet rest

end

/-- No bound of an iteration may reach this number. -/
def boundLimit : Nat := UInt32.size

/-- Refuse a regular expression that has a reversed iteration or is too large. -/
def check (expr : Expr) : Except Fault Unit :=
  let sets := (expr.sets.filter fun set => 1 < set.ranges.length).eraseDups
  let known := sets.map fun set => (set, Footprint.ofSet set)
  if expr.bounds.any fun (min, max) => max.any (· < min) then .error .reversedRepetition
  else if expr.bounds.any fun (min, max) => boundLimit ≤ min || max.any (boundLimit ≤ ·) then
    .error .tooLarge
  else if (expr.footprint (Footprint.find known)).fits then .ok ()
  else .error .tooLarge

end Expr

end GroupUnroll.Matching
