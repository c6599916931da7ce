import GroupUnroll.FlagSet
import GroupUnroll.Matching.Bracketed
import GroupUnroll.Text.Alphanumeric

/-! # Reading the engine's patterns

A pattern is read from left to right with the open groups on a stack, each with the branches read
before it was opened. Every step takes at least one character, so a pattern needs no more steps than
it has characters. Comments, and in extended mode blanks and line comments, may stand
between any two parts, also between a part and its quantifier.
-/

namespace GroupUnroll.Matching

/-- The text after a comment, whose opening characters have been read. -/
def dropComment : Text → Option Text
  | [] => none
  | c :: rest =>
    if c = ')' then some rest
    else if c = '\\' then
      match rest with
      | [] => none
      | _ :: rest => dropComment rest
    else dropComment rest

theorem dropComment_length_lt {text rest : Text} (found : dropComment text = some rest) :
    rest.length < text.length := by
  fun_induction dropComment text with
  | case1 => exact absurd found (by simp)
  | case2 => exact Option.some.inj found ▸ Nat.lt_succ_self _
  | case3 => exact absurd found (by simp)
  | case4 c after _ ih => exact Nat.lt_trans (ih found) (by simp only [List.length_cons]; omega)
  | case5 c after _ _ ih => exact Nat.lt_trans (ih found) (by simp only [List.length_cons]; omega)

/-- The text after comments and, in extended mode, blanks. -/
def skipTrivia (extended : Bool) (text : Text) : Except Fault Text :=
  match text with
  | [] => .ok []
  | c :: rest =>
    if extended ∧ c = '#' then skipTrivia extended (Text.dropThrough '\n' (c :: rest))
    else if extended ∧ c ∈ [' ', '\n', '\r', '\t'] then skipTrivia extended rest
    else
      match c, rest with
      | '(', '?' :: '#' :: body =>
        match _ : dropComment body with
        | none => .error .unclosedGroup
        | some after => skipTrivia extended after
      | _, _ => .ok (c :: rest)
termination_by text.length
decreasing_by
  · exact Text.dropThrough_length_lt _ _ _
  · exact Nat.lt_succ_self _
  · rename_i found
    have shorter := dropComment_length_lt found
    simp only [List.length_cons]
    omega

theorem skipTrivia_length_le {extended : Bool} {text rest : Text}
    (skipped : skipTrivia extended text = .ok rest) : rest.length ≤ text.length := by
  fun_induction skipTrivia extended text with
  | case1 => cases skipped; exact Nat.le_refl _
  | case2 c text _ ih =>
    exact Nat.le_of_lt (Nat.lt_of_le_of_lt (ih skipped) (Text.dropThrough_length_lt _ _ _))
  | case3 c text _ _ ih => exact Nat.le_succ_of_le (ih skipped)
  | case4 => cases skipped
  | case5 =>
    have shorter := dropComment_length_lt ‹dropComment _ = _›
    have := ‹_ → _› skipped
    simp only [List.length_cons]
    omega
  | case6 => cases skipped; exact Nat.le_refl _

/-- A decimal number that fits a machine word, and the text after it. -/
def readNumber? (text : Text) : Option (Nat × Text) :=
  match text.takeWhile Char.isDigit with
  | [] => none
  | digits =>
    let value := Nat.ofDigitChars 10 digits 0
    if value < UInt64.size then some (value, text.dropWhile Char.isDigit) else none

/-- The bounds after an opening brace; text of another form is no quantifier. -/
def readBraces? (extended : Bool) (text : Text) : Option (Nat × Option Nat × Text) := do
  let skip (text : Text) : Option Text := (skipTrivia extended text).toOption
  let text ← skip text
  let (min, text) ← if text.head? = some ',' then some (0, text) else readNumber? text
  match ← skip text with
  | '\x7d' :: rest => return (min, some min, rest)
  | ',' :: rest =>
    let text ← skip rest
    let (max, text) := match readNumber? text with
      | some (max, text) => (some max, text)
      | none => (none, text)
    match ← skip text with
    | '\x7d' :: rest => return (min, max, rest)
    | _ => none
  | _ => none

/-- The bounds of the quantifier that starts the text, if one does. -/
def readBounds? (extended : Bool) : Text → Option (Nat × Option Nat × Text)
  | '*' :: rest => some (0, none, rest)
  | '+' :: rest => some (1, none, rest)
  | '?' :: rest => some (0, some 1, rest)
  | '\x7b' :: rest => readBraces? extended rest
  | _ => none

/-- A number of repetitions that stands for any number of them. -/
def noLimit : Nat := UInt64.size - 1

/-- What holds while a part of a pattern is read. -/
structure Mode extends FlagSet where
  /-- Whether the question mark after a quantifier makes it greedy, and its absence lazy. -/
  swapsGreed : Bool

/-- The mode with the option of a letter set or reset, if the letter names one. -/
def Mode.set? (mode : Mode) (letter : Char) (value : Bool) : Option Mode :=
  if letter = 'U' then some { mode with swapsGreed := value }
  else (mode.toFlagSet.set? letter value).map ({ mode with toFlagSet := · })

/-- The expression with the quantifier that follows it, and the text after that. A question mark
makes the quantifier lazy, a plus sign after it atomic. -/
def readQuantified (mode : Mode) (body : Expr) (text : Text) : Except Fault (Expr × Text) := do
  let text ← skipTrivia mode.extended text
  match readBounds? mode.extended text with
  | none => return (body, text)
  | some (min, max, rest) =>
    if !body.isRepeatable then throw .nothingToRepeat
    let (lazy, rest) := match ← skipTrivia mode.extended rest with
      | '?' :: rest => (true, rest)
      | rest => (false, rest)
    let repeated := Expr.iterate body min (max.filter (· ≠ noLimit)) (lazy == mode.swapsGreed)
    match rest with
    | '+' :: rest => return (.atomic repeated, rest)
    | rest => return (repeated, rest)

/-- The single part that starts the text, and the text after it. -/
def readAtom (mode : Mode) : Text → Except Fault (Expr × Text)
  | [] => .ok (.empty, [])
  | '.' :: rest =>
    .ok (.chars (if mode.dotAll then .all else (CharSet.single '\n').complement), rest)
  | '^' :: rest => .ok (.holds (if mode.multiLine then .lineStart else .textStart), rest)
  | '$' :: rest => .ok (.holds (if mode.multiLine then .lineEnd else .textEnd), rest)
  | '[' :: rest => do
    let (set, rest) ← readBracketed mode.ignoreCase rest
    return (.chars set, rest)
  | '\\' :: rest =>
    match rest with
    | [] => .error .trailingBackslash
    | c :: rest => do
      match ← Escape.ofChar c with
      | .set set => return (.chars set, rest)
      | .single c => return (.chars (.single c), rest)
      | .condition condition =>
        if c ∈ ['b', 'B'] ∧ (← skipTrivia mode.extended rest).head? = some '\x7b' then
          throw .unknownEscape
        return (.holds condition, rest)
  | c :: rest => .ok (.chars (.ofChar mode.ignoreCase c), rest)

/-- What becomes of the body of a group when the group is closed. -/
inductive Wrapping
  | capture (slot : Nat)
  | atomic
  | look (behind negated : Bool)
  /-- The mode that holds again after the group. -/
  | mode (outer : Mode)

/-- An open group, with what was read before it in the enclosing one, last part first. -/
structure OpenGroup where
  wrapping : Wrapping
  branches : List Expr
  parts : List Expr

/-- Reading position: the open groups, and the branches and parts of the innermost one, last
first. -/
structure ReadState where
  rest : Text
  mode : Mode
  slots : Nat
  groups : List OpenGroup
  branches : List Expr
  parts : List Expr

/-- The mode spelled by the text, whether a colon ends it and not a closing parenthesis, and the text
after it. `value` is what letters are set to, and `length` how long the text was at the first letter. -/
def readMode (length : Nat) (mode : Mode) (value : Bool) (text : Text) :
    Except Fault (Mode × Bool × Text) :=
  match _ : skipTrivia mode.extended text with
  | .error fault => .error fault
  | .ok [] => .error .unclosedGroup
  | .ok (c :: rest) =>
    let read := length - (rest.length + 1)
    if c = ':' ∧ (value ∨ read ≠ 1) then .ok (mode, true, rest)
    else if c = ')' ∧ read ≠ 0 ∧ (value ∨ read ≠ 1) then .ok (mode, false, rest)
    else if c = '-' ∧ value then readMode length mode false rest
    else if c = 'u' ∧ value then readMode length mode value rest
    else
      match mode.set? c value with
      | some mode => readMode length mode value rest
      | none => .error .unknownFlag
termination_by text.length
decreasing_by
  all_goals
    have := skipTrivia_length_le ‹skipTrivia _ _ = _›
    simp only [List.length_cons] at this
    omega

namespace ReadState

/-- The state before the first character. -/
def start (pattern : Text) : ReadState :=
  ⟨pattern, ⟨.empty, false⟩, 0, [], [], []⟩

/-- What the innermost group matches. -/
def body (state : ReadState) : Expr :=
  .ofBranches (Expr.ofParts state.parts.reverse :: state.branches).reverse

/-- The state after a bar, which ends a branch. -/
def nextBranch (state : ReadState) (rest : Text) : ReadState :=
  { state with
    rest
    branches := Expr.ofParts state.parts.reverse :: state.branches
    parts := [] }

/-- How many groups may be open at once. -/
def nestingLimit : Nat := 63

/-- Open a group. -/
def openGroup (state : ReadState) (wrapping : Wrapping) (rest : Text) : ReadState :=
  { state with
    rest
    groups := ⟨wrapping, state.branches, state.parts⟩ :: state.groups
    branches := []
    parts := [] }

/-- Open a group that captures. -/
def openCapture (state : ReadState) (rest : Text) : ReadState :=
  { state with slots := state.slots + 1 }.openGroup (.capture (state.slots + 1)) rest

/-- Open a named group whose name starts the text. -/
def openNamed (state : ReadState) (text : Text) : Except Fault ReadState :=
  match text.takeWhile isNameChar, text.dropWhile isNameChar with
  | _ :: _, '>' :: rest => .ok (state.openCapture rest)
  | _, _ => .error .groupName

/-- Add a part with the quantifier that follows it. -/
def addQuantified (state : ReadState) (part : Expr) (rest : Text) : Except Fault ReadState := do
  let (part, rest) ← readQuantified state.mode part rest
  return { state with rest, parts := part :: state.parts }

/-- Deal with an opening parenthesis; `text` is what follows it. A setting is an empty part. -/
def atOpen (state : ReadState) (text : Text) : Except Fault ReadState := do
  if nestingLimit ≤ state.groups.length then throw .nestedTooDeep
  match ← skipTrivia state.mode.extended text with
  | '?' :: '=' :: rest => return state.openGroup (.look false false) rest
  | '?' :: '!' :: rest => return state.openGroup (.look false true) rest
  | '?' :: '<' :: '=' :: rest => return state.openGroup (.look true false) rest
  | '?' :: '<' :: '!' :: rest => return state.openGroup (.look true true) rest
  | '?' :: '<' :: rest => state.openNamed rest
  | '?' :: 'P' :: '<' :: rest => state.openNamed rest
  | '?' :: '>' :: rest => return state.openGroup .atomic rest
  | '?' :: text =>
    let (mode, hasBody, rest) ← readMode text.length state.mode true text
    let inner := { state with mode }
    if hasBody then return inner.openGroup (.mode state.mode) rest
    else inner.addQuantified .empty rest
  | rest => return state.openCapture rest

/-- Deal with a closing parenthesis; `rest` is what follows it. -/
def atClose (state : ReadState) (rest : Text) : Except Fault ReadState :=
  match state.groups with
  | [] => .error .unopenedGroup
  | ⟨wrapping, branches, parts⟩ :: groups =>
    let outer := { state with groups, branches, parts }
    match wrapping with
    | .capture slot => outer.addQuantified (.capture slot state.body) rest
    | .atomic => outer.addQuantified (.atomic state.body) rest
    | .look behind negated => outer.addQuantified (.look behind negated state.body) rest
    | .mode mode => { outer with mode }.addQuantified state.body rest

/-- Read to the end of the pattern in at most `steps` steps. -/
def finish : (steps : Nat) → ReadState → Except Fault Expr
  | 0, _ => .error .tooLarge
  | steps + 1, state => do
    match ← skipTrivia state.mode.extended state.rest with
    | [] => if state.groups.isEmpty then return state.body else throw .unclosedGroup
    | c :: rest =>
      if c = '|' then
        finish steps (state.nextBranch rest)
      else if c = ')' then finish steps (← state.atClose rest)
      else if c = '(' then finish steps (← state.atOpen rest)
      else if c ∈ ['*', '+', '?'] then throw .nothingToRepeat
      else
        let (part, rest) ← readAtom state.mode (c :: rest)
        finish steps (← state.addQuantified part rest)

end ReadState

/-- The expression of a pattern. -/
def Expr.ofPattern (pattern : Text) : Except Fault Expr :=
  (ReadState.start pattern).finish (pattern.length + 1)

end GroupUnroll.Matching
