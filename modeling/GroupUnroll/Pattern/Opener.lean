import GroupUnroll.Pattern.Token
import GroupUnroll.Text.Alphanumeric

/-! # Group openers

The characters after an opening parenthesis decide what it opens. The rules are tried in this
order: a parenthesis without a question mark, the fixed spellings, comments, the three spellings of
a named group, and flags. Comments and flag settings without a body are plain text; every
other construct is opened by its first two characters and its remainder is left as text.
-/

namespace GroupUnroll

/-- Whether a character may stand in a flag setting. -/
def isFlagChar (c : Char) : Bool := c.isAlpha || c == '-'

/-- The opener `(?` with `spelling` after it. -/
def specialOpener (kind : GroupKind) (spelling : Text) : Token := .opener kind ('(' :: '?' :: spelling)

/-- The named group whose name starts the text, if a name ended by `stop` stands there. -/
def scanName? (spelling : Text) (stop : Char) (text : Text) : Option (Token × Text) :=
  match text.takeWhile isNameChar, text.dropWhile isNameChar with
  | name, c :: rest =>
    if name ≠ [] ∧ c = stop then some (specialOpener (.named name) (spelling ++ name ++ [stop]), rest)
    else none
  | _, [] => none

/-- The named group spelled after `(?`, if there is one. -/
def scanNamed? : Text → Option (Token × Text)
  | '<' :: rest => scanName? ['<'] '>' rest
  | 'P' :: '<' :: rest => scanName? ['P', '<'] '>' rest
  | '\x27' :: rest => scanName? ['\x27'] '\x27' rest
  | _ => none

/-- The flag setting or the unknown construct spelled after `(?`. -/
def scanFlags (text : Text) : Token × Text :=
  match text.takeWhile isFlagChar, text.dropWhile isFlagChar with
  | letters, c :: rest =>
    if letters ≠ [] ∧ c = ')' then (.plain ('(' :: '?' :: (letters ++ [')'])), rest)
    else if letters ≠ [] ∧ c = ':' then (specialOpener (.flags letters) (letters ++ [':']), rest)
    else (specialOpener .other [], text)
  | _, [] => (specialOpener .other [], text)

/-- The comment whose number sign starts the text, up to its first closing parenthesis. -/
def scanComment (text : Text) : Token × Text :=
  let rest := Text.dropThrough ')' text
  (.plain ('(' :: '?' :: Text.before text rest), rest)

/-- The token and the rest for the text after `(?`. -/
def scanSpecial : Text → Token × Text
  | ':' :: rest => (specialOpener .nonCapturing [':'], rest)
  | '=' :: rest => (specialOpener .lookahead ['='], rest)
  | '!' :: rest => (specialOpener .negativeLookahead ['!'], rest)
  | '<' :: '=' :: rest => (specialOpener .lookbehind ['<', '='], rest)
  | '<' :: '!' :: rest => (specialOpener .negativeLookbehind ['<', '!'], rest)
  | '>' :: rest => (specialOpener .atomic ['>'], rest)
  | '#' :: rest => scanComment ('#' :: rest)
  | text => (scanNamed? text).getD (scanFlags text)

/-- The token and the rest for the text after an opening parenthesis. -/
def scanOpener : Text → Token × Text
  | '?' :: rest => scanSpecial rest
  | text => (.opener .capturing ['('], text)

theorem scanName?_source {spelling : Text} {stop : Char} {text : Text} {token : Token} {rest : Text}
    (found : scanName? spelling stop text = some (token, rest)) :
    token.source ++ rest = '(' :: '?' :: (spelling ++ text) := by
  unfold scanName? at found
  split at found
  · rename_i c tail after
    split at found
    · rename_i named
      obtain ⟨rfl, rfl⟩ := Prod.mk.inj (Option.some.inj found)
      have whole := List.takeWhile_append_dropWhile (p := isNameChar) (l := text)
      rw [after, named.2] at whole
      simpa [specialOpener, Token.source] using whole
    · exact absurd found (by simp)
  · exact absurd found (by simp)

theorem scanNamed?_source {text : Text} {token : Token} {rest : Text}
    (found : scanNamed? text = some (token, rest)) :
    token.source ++ rest = '(' :: '?' :: text := by
  unfold scanNamed? at found
  split at found <;> first | exact scanName?_source found | exact absurd found (by simp)

theorem scanFlags_source (text : Text) :
    (scanFlags text).1.source ++ (scanFlags text).2 = '(' :: '?' :: text := by
  have whole := List.takeWhile_append_dropWhile (p := isFlagChar) (l := text)
  unfold scanFlags
  split
  · rename_i c rest after
    rw [after] at whole
    split
    · rename_i setting
      rw [setting.2] at whole
      simpa [Token.source] using whole
    · split
      · rename_i head
        rw [head.2] at whole
        simpa [specialOpener, Token.source] using whole
      · rfl
  · rfl

theorem scanComment_source (text : Text) :
    (scanComment text).1.source ++ (scanComment text).2 = '(' :: '?' :: text := by
  simp [scanComment, Token.source, Text.before_append (Text.dropThrough_suffix ')' text)]

/-- An opener loses and invents nothing. -/
theorem scanSpecial_source (text : Text) :
    (scanSpecial text).1.source ++ (scanSpecial text).2 = '(' :: '?' :: text := by
  unfold scanSpecial
  split <;> try rfl
  · exact scanComment_source _
  · cases found : scanNamed? text with
    | none => exact scanFlags_source text
    | some result => exact scanNamed?_source found

theorem scanOpener_source (text : Text) :
    (scanOpener text).1.source ++ (scanOpener text).2 = '(' :: text := by
  unfold scanOpener
  split
  · exact scanSpecial_source _
  · rfl

end GroupUnroll
