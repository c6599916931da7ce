import GroupUnroll.Text.Blank
import GroupUnroll.Text.CaseFold
import GroupUnroll.Text.Digit
import GroupUnroll.Text.Word

/-! # Sets of characters

The sets that one position of a pattern can match, as intervals of code points in increasing order
that neither overlap nor touch. Sets are combined as in set algebra, and `ignoringCase` adds
the letters that differ from a member in case only.
-/

namespace GroupUnroll.Matching

/-- A set of characters. -/
structure CharSet where
  ranges : List CodeRange
deriving DecidableEq

namespace CharSet

/-- The greatest code point. -/
def lastCode : Nat := 0x10FFFF

/-- Join intervals that overlap or touch; they come in the order of their first members. -/
def joinRanges : List CodeRange → List CodeRange
  | [] => []
  | [range] => [range]
  | range :: next :: rest =>
    if next.first ≤ range.last + 1 then joinRanges (⟨range.first, range.last.max next.last⟩ :: rest)
    else range :: joinRanges (next :: rest)
termination_by ranges => ranges.length

/-- The set of the members of some intervals. -/
def ofRanges (ranges : List CodeRange) : CharSet :=
  ⟨joinRanges (ranges.mergeSort fun range other => range.first ≤ other.first)⟩

/-- The set without members. -/
def empty : CharSet := ⟨[]⟩

/-- The set of all characters. -/
def all : CharSet := ⟨[⟨0, lastCode⟩]⟩

/-- The set with the characters between two characters. -/
def interval (first last : Char) : CharSet := ⟨[⟨first.toNat, last.toNat⟩]⟩

/-- The set with one member. -/
def single (c : Char) : CharSet := interval c c

/-- Whether a code point lies in increasing intervals. -/
def rangesContain (code : Nat) : List CodeRange → Bool
  | [] => false
  | range :: rest => if code ≤ range.last then range.first ≤ code else rangesContain code rest

/-- Whether a character is in the set. -/
def contains (set : CharSet) (c : Char) : Bool := rangesContain c.toNat set.ranges

/-- The intervals between increasing intervals, from a code point on. -/
def gaps (start : Nat) : List CodeRange → List CodeRange
  | [] => if start ≤ lastCode then [⟨start, lastCode⟩] else []
  | range :: rest =>
    if start < range.first then ⟨start, range.first - 1⟩ :: gaps (range.last + 1) rest
    else gaps (range.last + 1) rest

/-- The characters that are not in the set. -/
def complement (set : CharSet) : CharSet := ⟨gaps 0 set.ranges⟩

/-- The characters in either set. -/
def union (left right : CharSet) : CharSet := ofRanges (left.ranges ++ right.ranges)

/-- The characters in both sets. -/
def intersection (left right : CharSet) : CharSet :=
  (left.complement.union right.complement).complement

/-- The characters in the first set only. -/
def difference (left right : CharSet) : CharSet := left.intersection right.complement

/-- The characters in just one of the sets. -/
def symmetricDifference (left right : CharSet) : CharSet :=
  (left.difference right).union (right.difference left)

/-- The characters that are in the set but for their case. -/
def ignoringCase (set : CharSet) : CharSet :=
  let folded := ofRanges (foldPairs.filterMap fun (letter, target) =>
    if rangesContain letter set.ranges || rangesContain target set.ranges then
      some ⟨target, target⟩
    else none)
  set.union (folded.union (ofRanges (foldPairs.filterMap fun (letter, target) =>
    if rangesContain target folded.ranges then some ⟨letter, letter⟩ else none)))

/-- A character and, if `ignoreCase`, the letters that differ from it in case only. -/
def ofChar (ignoreCase : Bool) (c : Char) : CharSet :=
  if ignoreCase then ofRanges ((c :: caseVariants c).map fun c => ⟨c.toNat, c.toNat⟩) else single c

/-- The decimal digits. -/
def digit : CharSet := ofRanges (⟨0x30, 0x39⟩ :: digitTable)

/-- The characters of words. -/
def word : CharSet :=
  ofRanges ([⟨0x30, 0x39⟩, ⟨0x41, 0x5A⟩, ⟨0x5F, 0x5F⟩, ⟨0x61, 0x7A⟩] ++ wordTable)

/-- The blanks. -/
def blank : CharSet := ofRanges ([⟨0x09, 0x0D⟩, ⟨0x20, 0x20⟩] ++ blankTable)

/-- The hexadecimal digits. -/
def hexDigit : CharSet := ⟨[⟨0x30, 0x39⟩, ⟨0x41, 0x46⟩, ⟨0x61, 0x66⟩]⟩

/-- The set that an escaped letter names. -/
def ofLetter? : Char → Option CharSet
  | 'd' => some digit
  | 'D' => some digit.complement
  | 'w' => some word
  | 'W' => some word.complement
  | 's' => some blank
  | 'S' => some blank.complement
  | 'h' => some hexDigit
  | 'H' => some hexDigit.complement
  | _ => none

/-- The ASCII characters of a class that is known by name. -/
def named? (name : String) : Option CharSet :=
  match name with
  | "alnum" => some ⟨[⟨0x30, 0x39⟩, ⟨0x41, 0x5A⟩, ⟨0x61, 0x7A⟩]⟩
  | "alpha" => some ⟨[⟨0x41, 0x5A⟩, ⟨0x61, 0x7A⟩]⟩
  | "ascii" => some ⟨[⟨0x00, 0x7F⟩]⟩
  | "blank" => some ⟨[⟨0x09, 0x09⟩, ⟨0x20, 0x20⟩]⟩
  | "cntrl" => some ⟨[⟨0x00, 0x1F⟩, ⟨0x7F, 0x7F⟩]⟩
  | "digit" => some ⟨[⟨0x30, 0x39⟩]⟩
  | "graph" => some ⟨[⟨0x21, 0x7E⟩]⟩
  | "lower" => some ⟨[⟨0x61, 0x7A⟩]⟩
  | "print" => some ⟨[⟨0x20, 0x7E⟩]⟩
  | "punct" => some ⟨[⟨0x21, 0x2F⟩, ⟨0x3A, 0x40⟩, ⟨0x5B, 0x60⟩, ⟨0x7B, 0x7E⟩]⟩
  | "space" => some ⟨[⟨0x09, 0x0D⟩, ⟨0x20, 0x20⟩]⟩
  | "upper" => some ⟨[⟨0x41, 0x5A⟩]⟩
  | "word" => some ⟨[⟨0x30, 0x39⟩, ⟨0x41, 0x5A⟩, ⟨0x5F, 0x5F⟩, ⟨0x61, 0x7A⟩]⟩
  | "xdigit" => some hexDigit
  | _ => none

end CharSet

end GroupUnroll.Matching
