import GroupUnroll.Matching.Expr
import GroupUnroll.Matching.Fault

/-! # Escaped characters

Outside of classes an escape stands for a character, a set or a condition. In a class it is spelled
anew, so that the only escapes left are letters that name sets and characters that would otherwise
have a meaning of their own.
-/

namespace GroupUnroll.Matching

/-- The control character that an escaped letter stands for. -/
def controlChar? : Char → Option Char
  | 'a' => some '\x07'
  | 'e' => some '\x1b'
  | 'f' => some '\x0c'
  | 'n' => some '\n'
  | 'r' => some '\r'
  | 't' => some '\t'
  | 'v' => some '\x0b'
  | _ => none

/-- What an escaped character stands for. -/
inductive Escape
  | set (set : CharSet)
  | single (c : Char)
  | condition (condition : Condition)

/-- The meaning of the character after a backslash. -/
def Escape.ofChar : Char → Except Fault Escape
  | 'A' => .ok (.condition .textStart)
  | 'z' => .ok (.condition .textEnd)
  | 'b' => .ok (.condition .wordBoundary)
  | 'B' => .ok (.condition .noWordBoundary)
  | '<' => .ok (.condition .wordStart)
  | '>' => .ok (.condition .wordEnd)
  | c =>
    match CharSet.ofLetter? c, controlChar? c with
    | some members, _ => .ok (.set members)
    | none, some c => .ok (.single c)
    | none, none => if c.isAlphanum then .error .unknownEscape else .ok (.single c)

/-- The characters that have a meaning of their own somewhere in a pattern. -/
def metaChars : List Char :=
  ['\\', '.', '+', '*', '?', '(', ')', '|', '[', ']', '\x7b', '\x7d', '^', '$', '#', '&', '-', '~']

/-- How a class spells the character after a backslash. -/
def spellInClass (c : Char) : Except Fault Text :=
  if (CharSet.ofLetter? c).isSome ∨ c ∈ metaChars then .ok ['\\', c]
  else if c = 'b' then .ok ['\x08']
  else if c ∈ ['A', 'B', 'G', 'K', 'k', 'z'] then .ok [c]
  else
    match controlChar? c with
    | some c => .ok [c]
    | none => if c.isAlphanum then .error .unknownEscape else .ok [c]

end GroupUnroll.Matching
