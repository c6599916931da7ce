import GroupUnroll.Text.Basic

/-! # Reasons for refusing a pattern

Positions are byte offsets into the text being read; inside the body of an alias that is the body.
Every refusal has one message.
-/

namespace GroupUnroll

/-- Why a pattern is not unrolled, or an unrolled pattern not matched. -/
inductive Refusal
  /-- A closing parenthesis that no open group is waiting for. -/
  | strayCloser (position : Nat)
  /-- The text ends inside the group opened at the position. -/
  | unclosedGroup (position : Nat)
  /-- A character that cannot stand in a brace quantifier, or starts a number that is too large. -/
  | badQuantifier (position : Nat) (found : Char)
  /-- The text ends inside the brace quantifier opened at the position. -/
  | unclosedQuantifier (position : Nat)
  /-- An alias referenced while it is being read, with the aliases being read, outermost first. -/
  | circularReference (name : Text) (path : List Text)
  /-- A name that no reference can spell, or that cannot name a group. -/
  | badAliasName (name : Text)
  /-- The unrolled pattern would be larger than the limit. -/
  | tooLarge (limit : UInt64)
  /-- The matching engine does not accept the pattern. -/
  | notAccepted (reason : Text)
  /-- The matching engine gave up. -/
  | gaveUp (reason : Text)
deriving DecidableEq

/-- The message shown for a refusal. -/
def Refusal.message : Refusal → String
  | .strayCloser position => "unbalanced group close at position " ++ toString position
  | .unclosedGroup position =>
    "premature end of pattern: group opened at position " ++ toString position ++ " is never closed"
  | .badQuantifier position found =>
    "malformed quantifier: unexpected character '" ++ String.ofList [found] ++ "' at position " ++
      toString position
  | .unclosedQuantifier position =>
    "premature end of quantifier opened at position " ++ toString position
  | .circularReference name path =>
    "circular alias reference to '" ++ String.ofList name ++ "' (via " ++
      " -> ".intercalate (path.map String.ofList) ++ ")"
  | .badAliasName name => "invalid alias name '" ++ String.ofList name ++ "'"
  | .tooLarge limit =>
    "expanded pattern exceeds the size limit of " ++ toString limit.toNat ++ " bytes"
  | .notAccepted reason => "compilation error: " ++ String.ofList reason
  | .gaveUp reason => "runtime error: " ++ String.ofList reason

end GroupUnroll
