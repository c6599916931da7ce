import GroupUnroll.Text.Basic

/-! # Tables of code points

A character class of the Unicode standard is given by its ASCII members as a rule and by its other
members as a table of inclusive intervals.
-/

namespace GroupUnroll

/-- An inclusive interval of code points. -/
structure CodeRange where
  first : Nat
  last : Nat
deriving DecidableEq

/-- Whether a character lies in the interval. -/
def CodeRange.contains (range : CodeRange) (c : Char) : Bool :=
  range.first ≤ c.toNat && c.toNat ≤ range.last

/-- Whether a character lies in one of the intervals. -/
def CodeRange.anyContains (table : List CodeRange) (c : Char) : Bool :=
  table.any (·.contains c)

/-- Whether a character is in the ASCII range. -/
def isAscii (c : Char) : Bool := c.toNat < 128

end GroupUnroll
