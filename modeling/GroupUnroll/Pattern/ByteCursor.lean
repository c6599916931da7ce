import GroupUnroll.Pattern.Cursor
import GroupUnroll.Text.ByteOffset

/-! # Cutting a pattern into tokens by byte offset

A `ByteCursor` holds the whole pattern and the byte offset it has come to. All it sees of the pattern are
slices of it, and lengths are found by searching for the character that ends a run. A call has no answer if
one of its slices is not there or a count would go below zero. Both are left open here, and what a call
answers is not taken from `scan`. Which characters may stand in the name of a group is left open as well:
`isName` decides it, and is `isNameChar` unless another predicate is given.

The loops through plain text and classes come to a later byte in every round, so they end.
-/

namespace GroupUnroll

/-- What is left of a count, if it does not go below zero. -/
def difference? (count taken : Nat) : Option Nat := if taken ≤ count then some (count - taken) else none

/-- What is left of a text behind a spelling, if it starts with it. -/
def stripped? (spelling text : Text) : Option Text :=
  if spelling.isPrefixOf text then some (text.drop spelling.length) else none

/-- The whole pattern, the byte offset of the next token, and whether a closing parenthesis stands directly
before. -/
structure ByteCursor where
  input : Text
  position : Nat
  afterClose : Bool

namespace ByteCursor

section Readers

variable (input : Text) (position : Nat)

/-- The next character, if there is one. -/
def peek? : Option (Option Char) := (input.fromByte? position).map List.head?

/-- The next character and the offset behind it; at the end the offset stays. -/
def bump? : Option (Option Char × Nat) :=
  (peek? input position).map fun next => (next, position + next.elim 0 Char.utf8Size)

/-- The next `size` bytes and the offset behind them. -/
def take? (size : Nat) : Option (Text × Nat) :=
  (input.slice? position (position + size)).map (·, position + size)

/-- The token after a backslash. -/
def escape? : Option (Token × Nat) := do
  let (_, position) ← bump? input position
  match ← bump? input position with
  | (some c, position) => return (.escape c, position)
  | (none, position) => return (.plain ['\\'], position)

/-! ### Openers -/

/-- The openers that are spelled in one way only. -/
def fixedOpeners : List (Text × GroupKind) :=
  [(['(', '?', ':'], .nonCapturing), (['(', '?', '='], .lookahead), (['(', '?', '!'], .negativeLookahead),
    (['(', '?', '<', '='], .lookbehind), (['(', '?', '<', '!'], .negativeLookbehind),
    (['(', '?', '>'], .atomic)]

/-- What goes before the name of a group after `(?`, and the character that ends the name. -/
def nameSpellings : List (Text × Char) := [(['<'], '>'), (['P', '<'], '>'), (['\x27'], '\x27')]

/-- An opener of `size` bytes. -/
def opener? (kind : GroupKind) (size : Nat) : Option (Token × Nat) := do
  let (opening, position) ← take? input position size
  return (.opener kind opening, position)

/-- Plain text of `size` bytes. -/
def text? (size : Nat) : Option (Token × Nat) := do
  let (text, position) ← take? input position size
  return (.plain text, position)

/-- The first of the given spellings of a named group that `after`, the text after `(?`, starts with, if
there is one. -/
def named? (isName : Char → Bool) (after : Text) : List (Text × Char) → Option (Option (Token × Nat))
  | [] => some none
  | (spelling, stop) :: others =>
    match stripped? spelling after with
    | none => named? isName after others
    | some text =>
      match text.findByte? (· == stop) with
      | none => named? isName after others
      | some size => do
        let name ← text.slice? 0 size
        if name ≠ [] ∧ name.all isName then
          let opener ← opener? input position (.named name) (2 + spelling.byteLength + size + 1)
          return some opener
        else named? isName after others

/-- The flag setting or the unknown construct that `after` stands in. -/
def flags? (after : Text) : Option (Token × Nat) := do
  let size := (after.findByte? (! isFlagChar ·)).getD after.byteLength
  if 0 < size then
    let behind ← after.fromByte? size
    match behind.head? with
    | some ')' => text? input position (2 + size + 1)
    | some ':' =>
      let letters ← after.slice? 0 size
      opener? input position (.flags letters) (2 + size + 1)
    | _ => opener? input position .other 2
  else opener? input position .other 2

/-- The token that an opening parenthesis starts. -/
def group? (isName : Char → Bool) : Option (Token × Nat) := do
  let rest ← input.fromByte? position
  match stripped? ['(', '?'] rest with
  | none =>
    let (_, position) ← bump? input position
    return (.opener .capturing ['('], position)
  | some after =>
    match fixedOpeners.find? fun entry => entry.1.isPrefixOf rest with
    | some (opening, kind) => opener? input position kind opening.byteLength
    | none =>
      if after.head? = some '#' then text? input position (rest.lengthThrough ')')
      else
        match ← named? input position isName after nameSpellings with
        | some result => return result
        | none => flags? input position after

/-! ### Quantifiers, references and plain text -/

/-- The quantifier that an opening brace starts. -/
def brace? : Option (Token × Nat) := do
  let rest ← input.fromByte? position
  let (raw, position) ← take? input position (rest.lengthThrough '\x7d')
  return (.quantifier raw, position)

/-- The token that an at sign starts. -/
def reference? : Option (Token × Nat) := do
  let start := position + 1
  let text ← input.fromByte? start
  let left ← difference? input.byteLength start
  let size := (text.findByte? (! isAliasChar ·)).getD left
  if size = 0 then
    let (_, position) ← bump? input position
    return (.plain ['@'], position)
  else
    let (spelled, position) ← take? input position (1 + size)
    let name ← spelled.fromByte? 1
    return (.reference name, position)

end Readers

/-! ### Loops -/

theorem bump?_bounds {input : Text} {position after : Nat} {next : Option Char}
    (bumped : bump? input position = some (next, after)) :
    position ≤ after ∧ after ≤ input.byteLength ∧ (next ≠ none → position < after) := by
  obtain ⟨first, peeked, same⟩ := Option.map_eq_some_iff.mp bumped
  obtain ⟨rest, stands, rfl⟩ := Option.map_eq_some_iff.mp peeked
  obtain ⟨rfl, rfl⟩ := Prod.mk.inj same
  have total := Text.add_byteLength_of_fromByte? stands
  cases rest with
  | nil =>
    refine ⟨Nat.le_refl _, ?_, fun there => absurd rfl there⟩
    simp only [Text.byteLength_nil] at total
    exact Nat.le_of_eq total
  | cons c rest =>
    have some_byte := c.utf8Size_pos
    simp only [Text.byteLength_cons] at total
    simp only [List.head?_cons, Option.elim_some]
    omega

/-- The offset behind a caret, if one stands next. -/
def pastCaret? (input : Text) (position : Nat) : Option Nat := do
  if (← peek? input position) = some '^' then
    let (_, position) ← bump? input position
    return position
  else return position

theorem pastCaret?_bounds {input : Text} {position after : Nat}
    (passed : pastCaret? input position = some after) : position ≤ after ∧ after ≤ input.byteLength := by
  obtain ⟨next, peeked, passed⟩ := Option.bind_eq_some_iff.mp passed
  split at passed
  · obtain ⟨⟨_, behind⟩, bumped, passed⟩ := Option.bind_eq_some_iff.mp passed
    have beyond := bump?_bounds bumped
    obtain rfl := Option.some.inj passed
    exact ⟨beyond.1, beyond.2.1⟩
  · obtain rfl := Option.some.inj passed
    obtain ⟨rest, stands, -⟩ := Option.map_eq_some_iff.mp peeked
    have total := Text.add_byteLength_of_fromByte? stands
    omega

/-- A class being read: the offset, how many classes are open, and where the first member stands of the class
that was opened last. -/
structure ClassLoop where
  position : Nat
  depth : Nat
  first : Nat

/-- One round through a class either goes on or ends behind it. -/
def ClassLoop.step? (input : Text) (loop : ClassLoop) : Option (ClassLoop ⊕ Nat) := do
  let (next, position) ← bump? input loop.position
  match next with
  | none => return .inr position
  | some '\\' =>
    let (_, position) ← bump? input position
    return .inl { loop with position }
  | some '[' =>
    let position ← pastCaret? input position
    return .inl ⟨position, loop.depth + 1, position⟩
  | some ']' =>
    if (← difference? position 1) = loop.first then return .inl { loop with position }
    else
      let depth ← difference? loop.depth 1
      if depth = 0 then return .inr position else return .inl { loop with position, depth }
  | some _ => return .inl { loop with position }

/-- A round takes at least the character that stands next. -/
theorem ClassLoop.step?_lt {input : Text} {loop : ClassLoop} {outcome : ClassLoop ⊕ Nat}
    (went : loop.step? input = some outcome) (more : peek? input loop.position ≠ some none) :
    loop.position < outcome.elim position id ∧ outcome.elim position id ≤ input.byteLength := by
  obtain ⟨⟨next, after⟩, bumped, went⟩ := Option.bind_eq_some_iff.mp went
  obtain ⟨-, inside, further⟩ := bump?_bounds bumped
  have there : next ≠ none := by
    rintro rfl
    obtain ⟨first, peeked, same⟩ := Option.map_eq_some_iff.mp bumped
    exact more (peeked.trans (congrArg some (Prod.mk.inj same).1))
  have later := further there
  dsimp only at went
  split at went
  · exact absurd rfl there
  · obtain ⟨⟨_, behind⟩, bumped, went⟩ := Option.bind_eq_some_iff.mp went
    have beyond := bump?_bounds bumped
    obtain rfl := Option.some.inj went
    simp only [Sum.elim_inl]
    omega
  · obtain ⟨behind, passed, went⟩ := Option.bind_eq_some_iff.mp went
    have beyond := pastCaret?_bounds passed
    obtain rfl := Option.some.inj went
    simp only [Sum.elim_inl]
    omega
  · obtain ⟨before, -, went⟩ := Option.bind_eq_some_iff.mp went
    split at went
    · obtain rfl := Option.some.inj went
      exact ⟨later, inside⟩
    · obtain ⟨depth, -, went⟩ := Option.bind_eq_some_iff.mp went
      split at went <;> (obtain rfl := Option.some.inj went; exact ⟨later, inside⟩)
  · obtain rfl := Option.some.inj went
    exact ⟨later, inside⟩

theorem ClassLoop.step?_at_end {input : Text} {loop : ClassLoop}
    (ended : peek? input loop.position = some none) : loop.step? input = some (.inr loop.position) := by
  rw [step?, bump?, ended]
  rfl

/-- Round after round through a class, to the offset behind it. -/
def ClassLoop.run? (input : Text) (loop : ClassLoop) : Option Nat :=
  match _ : loop.step? input with
  | none => none
  | some (.inl next) => next.run? input
  | some (.inr stop) => some stop
termination_by input.byteLength - loop.position
decreasing_by
  rename_i went
  have more : peek? input loop.position ≠ some none := by
    intro ended
    rw [step?_at_end ended] at went
    exact absurd went (by simp)
  have further := step?_lt went more
  simp only [Sum.elim_inl] at further
  omega

theorem ClassLoop.run?_of_more {input : Text} {loop next : ClassLoop}
    (went : loop.step? input = some (.inl next)) : loop.run? input = next.run? input := by
  rw [run?]
  split <;> simp_all

theorem ClassLoop.run?_of_done {input : Text} {loop : ClassLoop} {stop : Nat}
    (went : loop.step? input = some (.inr stop)) : loop.run? input = some stop := by
  rw [run?]
  split <;> simp_all

theorem ClassLoop.run?_bounds {input : Text} {loop : ClassLoop} {stop : Nat}
    (ran : loop.run? input = some stop) (more : peek? input loop.position ≠ some none) :
    loop.position < stop ∧ stop ≤ input.byteLength := by
  fun_induction run? input loop with
  | case1 loop went => exact absurd ran (by simp)
  | case2 loop next went ih =>
    have further := step?_lt went more
    simp only [Sum.elim_inl] at further
    by_cases ended : peek? input next.position = some none
    · rw [run?_of_done (step?_at_end ended)] at ran
      obtain rfl := Option.some.inj ran
      exact further
    · have later := ih ran ended
      omega
  | case3 loop last went =>
    obtain rfl := Option.some.inj ran
    exact step?_lt went more

/-- The offset behind the class whose opening bracket stands next. -/
def classEnd? (input : Text) (position : Nat) : Option Nat := ClassLoop.run? input ⟨position, 0, position⟩

/-- One round through plain text, in which a class is passed as a whole, either goes on or ends. -/
def plainStep? (input : Text) (position : Nat) : Option (Nat ⊕ Nat) := do
  match ← peek? input position with
  | none => return .inr position
  | some c =>
    if endsPlainText c then return .inr position
    else if c = '[' then
      let position ← classEnd? input position
      return .inl position
    else
      let (_, position) ← bump? input position
      return .inl position

theorem plainStep?_lt {input : Text} {position next : Nat}
    (went : plainStep? input position = some (.inl next)) : position < next ∧ next ≤ input.byteLength := by
  obtain ⟨first, peeked, went⟩ := Option.bind_eq_some_iff.mp went
  cases first with
  | none => exact absurd went (by simp)
  | some c =>
    dsimp only at went
    split at went
    · exact absurd went (by simp)
    split at went
    · obtain ⟨stop, ran, went⟩ := Option.bind_eq_some_iff.mp went
      obtain rfl := Sum.inl.inj (Option.some.inj went)
      apply ClassLoop.run?_bounds ran
      rw [peeked]
      simp
    · obtain ⟨⟨again, after⟩, bumped, went⟩ := Option.bind_eq_some_iff.mp went
      obtain rfl := Sum.inl.inj (Option.some.inj went)
      obtain ⟨-, inside, further⟩ := bump?_bounds bumped
      obtain ⟨same, peeked', repeated⟩ := Option.map_eq_some_iff.mp bumped
      obtain rfl := Option.some.inj (peeked.symm.trans peeked')
      have there : again ≠ none := by
        rw [← (Prod.mk.inj repeated).1]
        simp
      exact ⟨further there, inside⟩

/-- Round after round through plain text, to the offset behind it. -/
def plainEnd? (input : Text) (position : Nat) : Option Nat :=
  match _ : plainStep? input position with
  | none => none
  | some (.inl next) => plainEnd? input next
  | some (.inr stop) => some stop
termination_by input.byteLength - position
decreasing_by
  have further := plainStep?_lt ‹_›
  omega

/-- A run of plain text. -/
def plain? (input : Text) (position : Nat) : Option (Token × Nat) := do
  let stop ← plainEnd? input position
  let text ← input.slice? position stop
  return (.plain text, stop)

section Calls

variable (isName : Char → Bool)

/-- The token at an offset, which is no closing parenthesis, and the offset behind it. -/
def tokenBy? (input : Text) (afterClose : Bool) (position : Nat) : Option (Token × Nat) := do
  match ← peek? input position with
  | none => return (.endOfInput, position)
  | some c =>
    if c = '\\' then escape? input position
    else if c = '(' then group? input position isName
    else if afterClose ∧ (c = '*' ∨ c = '+') then
      let (_, position) ← bump? input position
      return (.quantifier [c], position)
    else if afterClose ∧ c = '\x7b' then brace? input position
    else if c = '@' then reference? input position
    else plain? input position

/-- The next token and the cursor behind it. -/
def nextBy? (cursor : ByteCursor) : Option (Token × ByteCursor) := do
  if (← peek? cursor.input cursor.position) = some ')' then
    let (_, position) ← bump? cursor.input cursor.position
    return (.closer, ⟨cursor.input, position, true⟩)
  else
    let (token, position) ← tokenBy? isName cursor.input cursor.afterClose cursor.position
    return (token, ⟨cursor.input, position, false⟩)

/-- The answers of `count` calls, and the cursor after them. -/
def callsBy? : (count : Nat) → ByteCursor → Option (List Token × ByteCursor)
  | 0, cursor => some ([], cursor)
  | count + 1, cursor => do
    let (token, next) ← cursor.nextBy? isName
    let (tokens, last) ← callsBy? count next
    return (token :: tokens, last)

end Calls

/-- The cursor before the first character. -/
def start (input : Text) : ByteCursor := ⟨input, 0, false⟩

/-- The next token, with the names of groups as patterns have them, and the cursor behind it. -/
def next? (cursor : ByteCursor) : Option (Token × ByteCursor) := cursor.nextBy? isNameChar

/-- The answers of `count` calls, with the names of groups as patterns have them, and the cursor after them. -/
def calls? (count : Nat) (cursor : ByteCursor) : Option (List Token × ByteCursor) := cursor.callsBy? isNameChar count

end ByteCursor

end GroupUnroll
