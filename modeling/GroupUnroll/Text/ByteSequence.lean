import GroupUnroll.Text.CodeRange

/-! # Intervals of code points as sequences of byte ranges

In UTF-8 a character takes one to four bytes. An interval of code points is cut until every piece is
a product of byte ranges. The pieces come in increasing order, so sequences with a common beginning
stand together.
-/

namespace GroupUnroll

/-- The bytes between two bytes. -/
structure ByteRange where
  first : Nat
  last : Nat
deriving DecidableEq

/-- The texts with one byte of each range. -/
abbrev ByteSequence := List ByteRange

/-- The bytes of a code point. -/
def encodeCode (code : Nat) : List Nat :=
  if code < 0x80 then [code]
  else if code < 0x800 then [0xC0 + code / 0x40, continuation 1]
  else if code < 0x10000 then [0xE0 + code / 0x1000, continuation 0x40, continuation 1]
  else [0xF0 + code / 0x40000, continuation 0x1000, continuation 0x40, continuation 1]
where
  /-- The byte for the six bits of which the lowest counts `unit`. -/
  continuation (unit : Nat) : Nat := 0x80 + code / unit % 0x40

namespace CodeRange

/-- Cut an interval before every one of some code points. -/
def cutAt (range : CodeRange) : List Nat → List CodeRange
  | [] => [range]
  | code :: rest =>
    if range.first < code ∧ code ≤ range.last then
      ⟨range.first, code - 1⟩ :: cutAt ⟨code, range.last⟩ rest
    else cutAt range rest

/-- Cut an interval that takes in more than one block into whole blocks and what stands before and
after them. Single bytes are not cut. -/
def cutByBlocks (size : Nat) (range : CodeRange) : List CodeRange :=
  if range.last < 0x80 ∨ range.first / size = range.last / size then [range]
  else range.cutAt [(range.first + size - 1) / size * size, (range.last + 1) / size * size]

/-- The interval without the code points that stand for no character. -/
def withoutSurrogates (range : CodeRange) : List CodeRange :=
  (range.cutAt [0xD800, 0xE000]).filter fun piece => piece.first < 0xD800 || 0xE000 ≤ piece.first

/-- The code points at which characters begin to take another byte. -/
def lengthChanges : List Nat := [0x80, 0x800, 0x10000]

/-- The pieces of the interval that are products of byte ranges. -/
def pieces (range : CodeRange) : List CodeRange :=
  range.withoutSurrogates.flatMap (cutAt · lengthChanges)
    |>.flatMap (cutByBlocks 0x40)
    |>.flatMap (cutByBlocks 0x1000)
    |>.flatMap (cutByBlocks 0x40000)

/-- The byte sequences of the interval. -/
def byteSequences (range : CodeRange) : List ByteSequence :=
  range.pieces.map fun piece =>
    (encodeCode piece.first).zipWith ByteRange.mk (encodeCode piece.last)

end CodeRange

end GroupUnroll
