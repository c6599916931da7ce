import GroupUnroll.Text.Word

/-! # Conditions on a position -/

namespace GroupUnroll.Matching

/-- A condition on a position that takes no characters. -/
inductive Condition
  | textStart
  | textEnd
  | lineStart
  | lineEnd
  | wordStart
  | wordEnd
  | wordBoundary
  | noWordBoundary

namespace Condition

/-- Whether a condition looks for the ends of words. -/
def regardsWords : Condition → Bool
  | .textStart | .textEnd | .lineStart | .lineEnd => false
  | .wordStart | .wordEnd | .wordBoundary | .noWordBoundary => true

/-- Whether the character before a position has a property. -/
def before (text : Array Char) (position : Nat) (property : Char → Bool) : Bool :=
  position != 0 && text[position - 1]?.any property

/-- Whether the character at a position has a property. -/
def after (text : Array Char) (position : Nat) (property : Char → Bool) : Bool :=
  text[position]?.any property

/-- Whether a condition holds at a position. -/
def holdsAt (text : Array Char) (position : Nat) : Condition → Bool
  | .textStart => position == 0
  | .textEnd => position == text.size
  | .lineStart => position == 0 || before text position (· == '\n')
  | .lineEnd => position == text.size || after text position (· == '\n')
  | .wordStart => !before text position isWordChar && after text position isWordChar
  | .wordEnd => before text position isWordChar && !after text position isWordChar
  | .wordBoundary => before text position isWordChar != after text position isWordChar
  | .noWordBoundary => before text position isWordChar == after text position isWordChar

end Condition

end GroupUnroll.Matching
