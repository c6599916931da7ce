import GroupUnroll.Text.Basic

/-! # Repetition bounds of a group

A quantified group is written between a least and a greatest number of times. Bounds are 64-bit
words. A missing upper bound is replaced by a ceiling when the group is unrolled; an upper bound
below the lower one adds nothing. `Repetition.source` is the shortest spelling of the bounds.
-/

namespace GroupUnroll

/-- The greatest number of copies of a group. -/
inductive UpperBound
  | atMost (count : UInt64)
  | unbounded
deriving DecidableEq

/-- The bound in copies, the ceiling standing in for a missing one. -/
def UpperBound.orCeiling (ceiling : UInt64) : UpperBound → UInt64
  | .atMost count => count
  | .unbounded => ceiling

/-- The least and the greatest number of copies of a group. -/
structure Repetition where
  min : UInt64
  max : UpperBound
deriving DecidableEq

namespace Repetition

/-- The decimal digits of a bound. -/
def digits (bound : UInt64) : Text := Nat.toDigits 10 bound.toNat

/-- The shortest quantifier that spells the bounds. -/
def source (repetition : Repetition) : Text :=
  match repetition.max with
  | .unbounded =>
    if repetition.min = 0 then ['*']
    else if repetition.min = 1 then ['+']
    else '\x7b' :: (digits repetition.min ++ [',', '\x7d'])
  | .atMost max =>
    if repetition.min = max then '\x7b' :: (digits max ++ ['\x7d'])
    else '\x7b' :: (digits repetition.min ++ ',' :: (digits max ++ ['\x7d']))

/-- How many optional copies follow the mandatory ones. -/
def optionalCopies (ceiling : UInt64) (repetition : Repetition) : Nat :=
  (repetition.max.orCeiling ceiling).toNat - repetition.min.toNat

end Repetition

end GroupUnroll
