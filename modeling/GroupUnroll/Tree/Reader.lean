import GroupUnroll.Alias.Path
import GroupUnroll.Alias.Table
import GroupUnroll.Pattern.Cursor
import GroupUnroll.Repetition.Reading
import GroupUnroll.Tree.Basic

/-! # Reading a pattern into a tree

Reading is a machine over located tokens. It keeps the groups opened so far with the parts that
stand before them, so one step deals with one token, or with a closing parenthesis and the
quantifier after it. A reference to an alias is one step as well: the body is read in full on
the same path of aliases, by the same machine.

A step asks for the bounds that a quantifier states, in any monad. `ReaderState.step`, which makes up
the machine, reads them at once.

A reader may be asked to read on after a refusal. It then goes on at the first token not consumed
and still knows which groups are open, although the parts read so far are lost.

References nest at most as deep as there are aliases, because an alias that is being read cannot be
entered again; this is the depth handed to `Reader.readWithin`.
-/

namespace GroupUnroll

/-- A group whose body is being read, with the parts before it, last part first. -/
structure Frame where
  kind : GroupKind
  opening : Text
  before : List Part

/-- The tokens not consumed yet, and the offsets of the open groups, innermost first. -/
structure Reader where
  upcoming : List LocatedToken
  openGroups : List Nat

/-- What one call answers, and what it leaves behind. -/
structure ReaderOutcome where
  answer : Except Refusal Tree
  reader : Reader
  path : AliasPath

/-- How a reference is read while the aliases of a path are being read. -/
abbrev ReferenceReader := Text → AliasPath → Except Refusal Part × AliasPath

/-- A call in progress: the groups opened by it, innermost first, and the parts of the innermost
one, last part first. -/
structure ReaderState where
  reader : Reader
  frames : List Frame
  parts : List Part
  path : AliasPath

/-- One step of a call either goes on or ends it. -/
inductive ReaderStep
  | more (state : ReaderState)
  | done (outcome : ReaderOutcome)

namespace ReaderStep

/-- The reader that a step leaves behind. -/
def reader : ReaderStep → Reader
  | .more state => state.reader
  | .done outcome => outcome.reader

/-- The path of aliases after a step. -/
def path : ReaderStep → AliasPath
  | .more state => state.path
  | .done outcome => outcome.path

end ReaderStep

namespace ReaderState

/-- The state before the first token of a call. -/
def start (reader : Reader) (path : AliasPath) : ReaderState := ⟨reader, [], [], path⟩

/-- The same call after consuming tokens and adding parts. -/
def advance (state : ReaderState) (upcoming : List LocatedToken) (parts : List Part) : ReaderStep :=
  .more { state with reader := { state.reader with upcoming }, parts }

/-- End a call with an answer, without consuming a token. -/
def finish (state : ReaderState) (answer : Except Refusal Tree) : ReaderStep :=
  .done ⟨answer, state.reader, state.path⟩

/-- The text has ended. -/
def atEnd (state : ReaderState) : ReaderStep :=
  match state.reader.openGroups with
  | [] => state.finish (.ok (Tree.ofReversed state.parts))
  | opened :: _ => state.finish (.error (.unclosedGroup opened))

/-- An opener stands next. -/
def atOpener (state : ReaderState) (kind : GroupKind) (opening : Text) (position : Nat)
    (rest : List LocatedToken) : ReaderStep :=
  .more ⟨⟨rest, position :: state.reader.openGroups⟩, ⟨kind, opening, state.parts⟩ :: state.frames,
    [], state.path⟩

/-- The innermost group has been closed and the quantifier behind it consumed, of which `bounds` are
read. `openGroups` are still open. -/
def withBounds (state : ReaderState) (openGroups : List Nat) (frame : Frame) (frames : List Frame)
    (raw : Text) (rest : List LocatedToken) (bounds : Except Refusal (Option Repetition)) :
    ReaderStep :=
  let group := Part.group frame.kind frame.opening (Tree.ofReversed state.parts)
  match bounds with
  | .error refusal => .done ⟨.error refusal, ⟨rest, openGroups⟩, state.path⟩
  | .ok (some repetition) =>
    .more ⟨⟨rest, openGroups⟩, frames, group (some repetition) :: frame.before, state.path⟩
  | .ok none =>
    .more ⟨⟨rest, openGroups⟩, frames, .plain raw :: group none :: frame.before, state.path⟩

/-- A reference stands next. It has been consumed when its body is read. -/
def atReference (state : ReaderState) (readReference : ReferenceReader) (name : Text)
    (rest : List LocatedToken) : ReaderStep :=
  match readReference name state.path with
  | (.ok part, path) => { state with path }.advance rest (part :: state.parts)
  | (.error refusal, path) => .done ⟨.error refusal, { state.reader with upcoming := rest }, path⟩

section Asking

variable {m : Type → Type} [Monad m] (ask : Text → Nat → m (Except Refusal (Option Repetition)))

/-- The innermost group has been closed and `openGroups` are still open; a quantifier that stands
next belongs to it. -/
def closeGroupBy (state : ReaderState) (openGroups : List Nat) (frame : Frame)
    (frames : List Frame) (rest : List LocatedToken) : m ReaderStep :=
  match rest with
  | ⟨.quantifier raw, position⟩ :: rest => do
    return state.withBounds openGroups frame frames raw rest (← ask raw position)
  | rest =>
    return .more ⟨⟨rest, openGroups⟩, frames,
      .group frame.kind frame.opening (Tree.ofReversed state.parts) none :: frame.before, state.path⟩

/-- A closer stands next. It is left alone if no group waits for it, and if the group that does was
opened by an earlier call. -/
def atCloserBy (state : ReaderState) (position : Nat) (rest : List LocatedToken) : m ReaderStep :=
  match state.reader.openGroups, state.frames with
  | [], _ => return state.finish (.error (.strayCloser position))
  | _ :: _, [] => return state.finish (.ok (Tree.ofReversed state.parts))
  | _ :: openGroups, frame :: frames => state.closeGroupBy ask openGroups frame frames rest

/-- Deal with the next token, asking for the bounds of a quantifier. -/
def stepBy (readReference : ReferenceReader) (state : ReaderState) : m ReaderStep :=
  match state.reader.upcoming with
  | [] => return state.atEnd
  | ⟨token, position⟩ :: rest =>
    match token with
    | .endOfInput => return state.atEnd
    | .opener kind opening => return state.atOpener kind opening position rest
    | .closer => state.atCloserBy ask position rest
    | .reference name => return state.atReference readReference name rest
    | .escape escaped => return state.advance rest (.plain ['\\', escaped] :: state.parts)
    | .plain text => return state.advance rest (.plain text :: state.parts)
    | .quantifier raw => return state.advance rest (.plain raw :: state.parts)

end Asking

/-- `closeGroupBy` with the bounds read at once. -/
def closeGroup (state : ReaderState) (openGroups : List Nat) (frame : Frame) (frames : List Frame)
    (rest : List LocatedToken) : ReaderStep :=
  Id.run (state.closeGroupBy (m := Id) Repetition.ofQuantifier openGroups frame frames rest)

/-- Deal with the next token, with the bounds of a quantifier read at once. -/
def step (readReference : ReferenceReader) (state : ReaderState) : ReaderStep :=
  Id.run (state.stepBy (m := Id) Repetition.ofQuantifier readReference)

section Steps

variable {readReference : ReferenceReader} {state next : ReaderState} {openGroups : List Nat}
  {frame : Frame} {frames : List Frame} {raw : Text} {position : Nat} {rest : List LocatedToken}

@[simp] theorem reader_withBounds (bounds : Except Refusal (Option Repetition)) :
    (state.withBounds openGroups frame frames raw rest bounds).reader = ⟨rest, openGroups⟩ := by
  unfold withBounds
  split <;> rfl

@[simp] theorem path_withBounds (bounds : Except Refusal (Option Repetition)) :
    (state.withBounds openGroups frame frames raw rest bounds).path = state.path := by
  unfold withBounds
  split <;> rfl

theorem step_of_reference {name : Text}
    (faces : state.reader.upcoming = ⟨.reference name, position⟩ :: rest) :
    state.step readReference = state.atReference readReference name rest := by
  rw [step, stepBy, faces]
  rfl

theorem closeGroup_quantifier :
    state.closeGroup openGroups frame frames (⟨.quantifier raw, position⟩ :: rest) =
      state.withBounds openGroups frame frames raw rest (Repetition.ofQuantifier raw position) := rfl

theorem suffix_closeGroup :
    (state.closeGroup openGroups frame frames rest).reader.upcoming <:+ rest := by
  rcases rest with _ | ⟨⟨token, position⟩, rest⟩
  · exact List.suffix_refl _
  cases token with
  | quantifier raw =>
    rw [closeGroup_quantifier, reader_withBounds]
    exact List.suffix_cons _ _
  | _ => exact List.suffix_refl _

/-- A step that goes on has consumed a token, and perhaps the quantifier behind it. -/
theorem suffix_of_more (more : state.step readReference = .more next) :
    ∃ located rest, state.reader.upcoming = located :: rest ∧ next.reader.upcoming <:+ rest := by
  obtain ⟨⟨upcoming, openGroups⟩, frames, parts, path⟩ := state
  rcases upcoming with _ | ⟨⟨token, position⟩, rest⟩
  · cases openGroups <;> cases more
  refine ⟨_, rest, rfl, ?_⟩
  cases token with
  | endOfInput => cases openGroups <;> cases more
  | closer =>
    rcases openGroups with _ | ⟨opened, openGroups⟩
    · cases more
    rcases frames with _ | ⟨frame, frames⟩
    · cases more
    have closed : closeGroup _ openGroups frame frames rest = .more next := more
    have left : _ = next.reader := congrArg ReaderStep.reader closed
    rw [← left]
    exact suffix_closeGroup
  | reference name =>
    rw [step_of_reference rfl, atReference] at more
    split at more
    · obtain rfl := ReaderStep.more.inj more
      exact List.suffix_refl _
    · cases more
  | _ =>
    obtain rfl := ReaderStep.more.inj more
    exact List.suffix_refl _

theorem step_length_lt (more : state.step readReference = .more next) :
    next.reader.upcoming.length < state.reader.upcoming.length := by
  obtain ⟨located, rest, upcoming, suffix⟩ := suffix_of_more more
  rw [upcoming]
  exact Nat.lt_succ_of_le suffix.length_le

end Steps

/-- Step until the call ends. -/
def run (readReference : ReferenceReader) (state : ReaderState) : ReaderOutcome :=
  match _ : state.step readReference with
  | .more next => run readReference next
  | .done outcome => outcome
termination_by state.reader.upcoming.length
decreasing_by exact step_length_lt ‹_›

end ReaderState

/-- Read a reference: `readBody` is given the name and the body of an alias, and every other
reference stays text. -/
def AliasTable.readReference (table : AliasTable)
    (readBody : Text → Text → AliasPath → Except Refusal Part × AliasPath) : ReferenceReader :=
  fun name path =>
    match table.replacement? name with
    | none => (.ok (.plain ('@' :: name)), path)
    | some body => readBody name body path

namespace Reader

/-- A reader before the first token of a pattern. -/
def ofPattern (pattern : Text) : Reader := ⟨locatedTokens pattern, []⟩

/-- Read up to the end of the text or of the enclosing group, with references nested at most `depth`
deep. -/
def readWithin (table : AliasTable) : (depth : Nat) → Reader → AliasPath → ReaderOutcome
  | 0, reader, path =>
    ReaderState.run
      (table.readReference fun name _ path =>
        (.error (.circularReference name path.names), path))
      (.start reader path)
  | depth + 1, reader, path =>
    ReaderState.run
      (table.readReference fun name body path =>
        match path.enter name with
        | .error refusal => (.error refusal, path)
        | .ok entered =>
          let outcome := readWithin table depth (ofPattern body) entered
          (outcome.answer.map (.reference name), outcome.path.leave))
      (.start reader path)

/-- Read up to the end of the text or of the enclosing group. -/
def read (table : AliasTable) (reader : Reader) (path : AliasPath) : ReaderOutcome :=
  readWithin table table.size reader path

end Reader

/-- The tree of a pattern. -/
def Tree.ofPattern (table : AliasTable) (pattern : Text) : Except Refusal Tree :=
  ((Reader.ofPattern pattern).read table .empty).answer

end GroupUnroll
