import GroupUnroll.Text.Basic

/-! # Patterns the matching engine refuses -/

namespace GroupUnroll.Matching

/-- Why a pattern is not accepted. -/
inductive Fault
  | unclosedClass
  | unclosedGroup
  | unopenedGroup
  | nothingToRepeat
  | reversedRepetition
  | reversedRange
  | rangeOfClass
  | trailingBackslash
  | unknownEscape
  | unknownFlag
  | groupName
  | openLookbehind
  | nestedTooDeep
  | tooLarge
deriving DecidableEq

/-- The reason given for refusing a pattern. -/
def Fault.message : Fault → String
  | .unclosedClass => "character class is never closed"
  | .unclosedGroup => "group or comment is never closed"
  | .unopenedGroup => "closing parenthesis without an open group"
  | .nothingToRepeat => "quantifier without anything to repeat"
  | .reversedRepetition => "upper bound of a repetition below its lower bound"
  | .reversedRange => "end of a range before its start"
  | .rangeOfClass => "end of a range is not a single character"
  | .trailingBackslash => "backslash at the end of the pattern"
  | .unknownEscape => "unknown escape"
  | .unknownFlag => "unknown flag or group"
  | .groupName => "group without a name"
  | .openLookbehind => "lookbehind of varying width"
  | .nestedTooDeep => "groups or classes nested too deep"
  | .tooLarge => "pattern too large"

end GroupUnroll.Matching
