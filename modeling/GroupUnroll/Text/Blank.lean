import GroupUnroll.Text.CodeRange

/-! # Blank characters

A character is blank if it has the Unicode property White_Space.
-/

namespace GroupUnroll

/-- The blank characters beyond ASCII. -/
def blankTable : List CodeRange := [
  ⟨0x85, 0x85⟩, ⟨0xA0, 0xA0⟩, ⟨0x1680, 0x1680⟩, ⟨0x2000, 0x200A⟩, ⟨0x2028, 0x2029⟩,
  ⟨0x202F, 0x202F⟩, ⟨0x205F, 0x205F⟩, ⟨0x3000, 0x3000⟩]

/-- The tab, line feed, vertical tab, form feed, carriage return and space, and the Unicode blanks. -/
def isBlank (c : Char) : Bool :=
  if isAscii c then c == ' ' || (9 ≤ c.toNat && c.toNat ≤ 13)
  else CodeRange.anyContains blankTable c

/-- Drop the blanks at both ends. -/
def Text.trim (text : Text) : Text :=
  ((text.dropWhile isBlank).reverse.dropWhile isBlank).reverse

end GroupUnroll
