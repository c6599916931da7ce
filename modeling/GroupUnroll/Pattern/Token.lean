import GroupUnroll.Text.Basic

/-! # Tokens of a pattern

A pattern is cut into the units that matter for unrolling: group openers and closers, quantifiers
that directly follow a group, references to aliases, escapes, and runs of everything else. A token
keeps its spelling, so `Token.source` gives back the characters it was read from.
-/

namespace GroupUnroll

/-- What a group opener introduces. -/
inductive GroupKind
  | capturing
  | nonCapturing
  | named (name : Text)
  | lookahead
  | negativeLookahead
  | lookbehind
  | negativeLookbehind
  | atomic
  | flags (letters : Text)
  | other
deriving DecidableEq

/-- Whether every copy of such a group has a capture slot of its own. -/
def GroupKind.isCapturing : GroupKind → Bool
  | .capturing | .named _ => true
  | _ => false

/-- A unit of a pattern. -/
inductive Token
  | plain (text : Text)
  | escape (escaped : Char)
  | opener (kind : GroupKind) (opening : Text)
  | closer
  | quantifier (raw : Text)
  | reference (name : Text)
  | endOfInput
deriving DecidableEq

/-- The characters a token was read from. -/
def Token.source : Token → Text
  | .plain text => text
  | .escape escaped => ['\\', escaped]
  | .opener _ opening => opening
  | .closer => [')']
  | .quantifier raw => raw
  | .reference name => '@' :: name
  | .endOfInput => []

/-- How messages and listings name a token. -/
def Token.describe : Token → String
  | .plain text => "literal `" ++ String.ofList text ++ "`"
  | .escape escaped => "escape `\\" ++ String.ofList [escaped] ++ "`"
  | .opener _ opening => "group `" ++ String.ofList opening ++ "`"
  | .closer => "`)`"
  | .quantifier raw => "quantifier `" ++ String.ofList raw ++ "`"
  | .reference name => "alias `@" ++ String.ofList name ++ "`"
  | .endOfInput => "EOF"

/-- Whether a character may stand in the name of an alias. -/
def isAliasChar (c : Char) : Bool := c.isLower || c.isDigit || c == '_'

end GroupUnroll
