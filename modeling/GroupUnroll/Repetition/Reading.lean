import GroupUnroll.Refusal
import GroupUnroll.Repetition.Basic
import GroupUnroll.Text.Blank

/-! # Reading a quantifier

A quantifier is a star, a plus sign or text in braces: an optional number, and an optional comma
with a second optional number. Blanks are ignored everywhere in the braces. Empty braces carry no
bounds and stay plain text.

The braces are read once from left to right, so the first character out of place is reported even
if the braces are never closed. Numbers that do not fit a 64-bit word are reported last, by their
first digit.
-/

namespace GroupUnroll

/-- A number being read: where its first digit stands, and the value so far. -/
structure Numeral where
  first : Option (Nat × Char)
  value : Nat

namespace Numeral

/-- No digit read yet. -/
def empty : Numeral := ⟨none, 0⟩

/-- Take one more digit, which stands at `position`. -/
def push (numeral : Numeral) (position : Nat) (digit : Char) : Numeral :=
  ⟨some (numeral.first.getD (position, digit)), Nat.ofDigitChars 10 [digit] numeral.value⟩

/-- The number as a 64-bit word, or nothing without digits. -/
def bound (numeral : Numeral) : Except Refusal (Option UInt64) :=
  match numeral.first with
  | none => .ok none
  | some (position, digit) =>
    if numeral.value < UInt64.size then .ok (some (UInt64.ofNat numeral.value))
    else .error (.badQuantifier position digit)

end Numeral

/-- What has been read of the text in braces. -/
structure BraceText where
  lower : Numeral
  comma : Bool
  upper : Numeral

namespace BraceText

/-- Nothing read yet. -/
def empty : BraceText := ⟨.empty, false, .empty⟩

/-- Take a digit, which belongs to the number before or after the comma. -/
def push (read : BraceText) (position : Nat) (digit : Char) : BraceText :=
  if read.comma then { read with upper := read.upper.push position digit }
  else { read with lower := read.lower.push position digit }

/-- Read text in braces opened at `opened` through the closing brace; `position` is the offset of
the text. -/
def read (opened : Nat) : (position : Nat) → BraceText → Text → Except Refusal BraceText
  | _, _, [] => .error (.unclosedQuantifier opened)
  | position, done, c :: rest =>
    if c = '\x7d' then .ok done
    else if isBlank c then read opened (position + c.utf8Size) done rest
    else if c.isDigit then read opened (position + c.utf8Size) (done.push position c) rest
    else if c = ',' ∧ done.comma = false then
      read opened (position + c.utf8Size) { done with comma := true } rest
    else .error (.badQuantifier position c)

/-- The bounds that the text in braces states, if it states any. -/
def bounds (done : BraceText) : Except Refusal (Option Repetition) := do
  let lower ← done.lower.bound
  let upper ← done.upper.bound
  match lower, done.comma, upper with
  | none, false, _ => return none
  | some count, false, _ => return some ⟨count, .atMost count⟩
  | lower, true, none => return some ⟨lower.getD 0, .unbounded⟩
  | lower, true, some count => return some ⟨lower.getD 0, .atMost count⟩

end BraceText

/-- The bounds stated by the quantifier that stands at `position`, if it states any. -/
def Repetition.ofQuantifier (raw : Text) (position : Nat) :
    Except Refusal (Option Repetition) :=
  match raw with
  | ['*'] => .ok (some ⟨0, .unbounded⟩)
  | ['+'] => .ok (some ⟨1, .unbounded⟩)
  | '\x7b' :: inner => do
    let done ← BraceText.read position (position + 1) .empty inner
    done.bounds
  | _ => .ok none

end GroupUnroll
