import GroupUnroll.Pattern.CharClass
import GroupUnroll.Pattern.Opener

/-! # Cutting a pattern into tokens

`scan` reads one token off a text. A quantifier is recognized only directly after a closing
parenthesis, which is all that reading remembers. `scan_source` says that a token's
characters and the rest are the text it was read from, and `scan_length_lt` that every token of a
text that has not ended takes at least one character, so `scanAll` ends.
-/

namespace GroupUnroll

/-- The token after a backslash; a backslash that ends the text is plain text. -/
def scanEscape : Text → Token × Text
  | [] => (.plain ['\\'], [])
  | c :: rest => (.escape c, rest)

/-- The token after an at sign, which is plain text unless the name of an alias follows. -/
def scanReference (text : Text) : Token × Text :=
  match text.takeWhile isAliasChar with
  | [] => (.plain ['@'], text)
  | c :: name => (.reference (c :: name), text.dropWhile isAliasChar)

/-- The first token of a text and the text after it; `afterClose` says that a closing parenthesis
stands directly before. -/
def scan (afterClose : Bool) : Text → Token × Text
  | [] => (.endOfInput, [])
  | c :: rest =>
    if c = '\\' then scanEscape rest
    else if c = '(' then scanOpener rest
    else if c = ')' then (.closer, rest)
    else if afterClose ∧ (c = '*' ∨ c = '+') then (.quantifier [c], rest)
    else if afterClose ∧ c = '\x7b' then
      (.quantifier (Text.before (c :: rest) (Text.dropThrough '\x7d' (c :: rest))),
        Text.dropThrough '\x7d' (c :: rest))
    else if c = '@' then scanReference rest
    else (.plain (Text.before (c :: rest) (dropPlainText (c :: rest))), dropPlainText (c :: rest))

theorem scanEscape_source (text : Text) :
    (scanEscape text).1.source ++ (scanEscape text).2 = '\\' :: text := by
  cases text <;> rfl

theorem scanReference_source (text : Text) :
    (scanReference text).1.source ++ (scanReference text).2 = '@' :: text := by
  unfold scanReference
  split
  · rfl
  · rename_i c name read
    have whole := List.takeWhile_append_dropWhile (p := isAliasChar) (l := text)
    rw [read] at whole
    simpa [Token.source] using whole

/-- A token and the rest are the text that was read. -/
theorem scan_source (afterClose : Bool) (text : Text) :
    (scan afterClose text).1.source ++ (scan afterClose text).2 = text := by
  cases text with
  | nil => rfl
  | cons c rest =>
    simp only [scan]
    split
    · rename_i same; rw [same]; exact scanEscape_source rest
    split
    · rename_i same; rw [same]; exact scanOpener_source rest
    split
    · rename_i same; rw [same]; rfl
    split
    · rfl
    split
    · exact Text.before_append (Text.dropThrough_suffix _ _)
    split
    · rename_i same; rw [same]; exact scanReference_source rest
    · exact Text.before_append (dropPlainText_suffix _)

theorem scan_suffix (afterClose : Bool) (text : Text) : (scan afterClose text).2 <:+ text :=
  ⟨_, scan_source afterClose text⟩

theorem scanName?_source_ne_nil {spelling : Text} {stop : Char} {text : Text} {token : Token}
    {rest : Text} (found : scanName? spelling stop text = some (token, rest)) :
    token.source ≠ [] := by
  unfold scanName? at found
  split at found
  · split at found
    · obtain ⟨rfl, rfl⟩ := Prod.mk.inj (Option.some.inj found)
      simp [specialOpener, Token.source]
    · exact absurd found (by simp)
  · exact absurd found (by simp)

theorem scanNamed?_source_ne_nil {text : Text} {token : Token} {rest : Text}
    (found : scanNamed? text = some (token, rest)) : token.source ≠ [] := by
  unfold scanNamed? at found
  split at found <;> first | exact scanName?_source_ne_nil found | exact absurd found (by simp)

theorem scanFlags_source_ne_nil (text : Text) : (scanFlags text).1.source ≠ [] := by
  unfold scanFlags
  split
  · split
    · simp [Token.source]
    · split <;> simp [specialOpener, Token.source]
  · simp [specialOpener, Token.source]

theorem scanOpener_source_ne_nil (text : Text) : (scanOpener text).1.source ≠ [] := by
  unfold scanOpener
  split
  · rename_i rest
    unfold scanSpecial
    split <;> try simp [specialOpener, Token.source, scanComment]
    cases found : scanNamed? rest with
    | some result => exact scanNamed?_source_ne_nil found
    | none => exact scanFlags_source_ne_nil rest
  · simp [Token.source]

/-- Every token but the end of the input has characters. -/
theorem scan_source_ne_nil (afterClose : Bool) (c : Char) (rest : Text) :
    (scan afterClose (c :: rest)).1.source ≠ [] := by
  have taken {left : Text} (shorter : left.length < (c :: rest).length) :
      Text.before (c :: rest) left ≠ [] := by
    intro none
    have length := congrArg List.length none
    rw [Text.before, List.length_take, List.length_nil] at length
    omega
  simp only [scan]
  split
  · cases rest <;> simp [scanEscape, Token.source]
  split
  · exact scanOpener_source_ne_nil rest
  split
  · simp [Token.source]
  split
  · simp [Token.source]
  split
  · exact taken (Text.dropThrough_length_lt _ _ _)
  split
  · unfold scanReference
    split <;> simp [Token.source]
  · apply taken
    apply dropPlainText_length_lt
    simp_all [endsPlainText]

theorem scan_length_lt (afterClose : Bool) (c : Char) (rest : Text) :
    (scan afterClose (c :: rest)).2.length < (c :: rest).length := by
  have whole := congrArg List.length (scan_source afterClose (c :: rest))
  have some := List.length_pos_iff.mpr (scan_source_ne_nil afterClose c rest)
  rw [List.length_append] at whole
  omega

/-- All tokens of a text, closed by one end of input. -/
def scanAll (afterClose : Bool) : Text → List Token
  | [] => [.endOfInput]
  | c :: rest =>
    (scan afterClose (c :: rest)).1 ::
      scanAll ((scan afterClose (c :: rest)).1 = .closer) (scan afterClose (c :: rest)).2
termination_by text => text.length
decreasing_by exact scan_length_lt afterClose c rest

/-- A position in a pattern: what is left to read, the bytes before it, and whether a closing
parenthesis stands directly before. -/
structure Cursor where
  rest : Text
  offset : Nat
  afterClose : Bool

namespace Cursor

/-- The position before the first character. -/
def start (pattern : Text) : Cursor := ⟨pattern, 0, false⟩

/-- The next token and the position after it. -/
def next (cursor : Cursor) : Token × Cursor :=
  match scan cursor.afterClose cursor.rest with
  | (token, rest) => (token, ⟨rest, cursor.offset + token.source.byteLength, token = .closer⟩)

/-- All tokens from here on, closed by one end of input. -/
def tokens (cursor : Cursor) : List Token := scanAll cursor.afterClose cursor.rest

end Cursor

/-- A token and the byte offset of its first character. -/
structure LocatedToken where
  token : Token
  start : Nat
deriving DecidableEq

/-- Attach offsets to consecutive tokens, the first of which starts at `offset`. -/
def locate (offset : Nat) : List Token → List LocatedToken
  | [] => []
  | token :: rest => ⟨token, offset⟩ :: locate (offset + token.source.byteLength) rest

/-- The tokens of a pattern with their offsets. -/
def locatedTokens (pattern : Text) : List LocatedToken := locate 0 (scanAll false pattern)

end GroupUnroll
