import GroupUnroll.Matcher
import GroupUnroll.Proofs.Lookup
import GroupUnroll.Proofs.Origin
import GroupUnroll.Proofs.SizeLimit

/-! # Text in front of a pattern

Plain text in front of a pattern that is read as one token leaves the tokens behind it as they are, further on by its
length. A call on the longer text does what a call on the pattern does, with the text below the parts of the
outermost group and every offset moved; the bodies of aliases are read as before. So what is refused in the pattern
itself is refused further on, what is refused in a body is refused alike, and a tree has the text in front. Unrolling
writes the text and then what it writes for the pattern, unless the longer buffer goes past the limit.
-/

namespace GroupUnroll

/-! ## Refusals further on -/

/-- The same refusal further on in the text. -/
def Refusal.movedBy (offset : Nat) : Refusal → Refusal
  | .strayCloser position => .strayCloser (offset + position)
  | .unclosedGroup position => .unclosedGroup (offset + position)
  | .badQuantifier position found => .badQuantifier (offset + position) found
  | .unclosedQuantifier position => .unclosedQuantifier (offset + position)
  | refusal => refusal

theorem Refusal.movedBy_zero (refusal : Refusal) : refusal.movedBy 0 = refusal := by
  cases refusal <;> simp only [movedBy, Nat.zero_add]

theorem mapError_bind {α β : Type} (change : Refusal → Refusal) (result : Except Refusal α)
    (next : α → Except Refusal β) :
    (result >>= next).mapError change = result.mapError change >>= fun value => (next value).mapError change := by
  cases result <;> rfl

namespace Numeral

/-- The same number further on in the text. -/
def movedBy (offset : Nat) (numeral : Numeral) : Numeral :=
  ⟨numeral.first.map fun first => (offset + first.1, first.2), numeral.value⟩

theorem push_movedBy (offset position : Nat) (numeral : Numeral) (digit : Char) :
    (numeral.movedBy offset).push (offset + position) digit = (numeral.push position digit).movedBy offset := by
  unfold push movedBy
  cases numeral.first <;> rfl

theorem bound_movedBy (offset : Nat) (numeral : Numeral) :
    (numeral.movedBy offset).bound = numeral.bound.mapError (Refusal.movedBy offset) := by
  unfold bound movedBy
  cases numeral.first with
  | none => rfl
  | some first =>
    dsimp only [Option.map_some]
    split <;> rfl

end Numeral

namespace BraceText

/-- The same text in braces further on. -/
def movedBy (offset : Nat) (done : BraceText) : BraceText :=
  ⟨done.lower.movedBy offset, done.comma, done.upper.movedBy offset⟩

theorem push_movedBy (offset position : Nat) (done : BraceText) (digit : Char) :
    (done.movedBy offset).push (offset + position) digit = (done.push position digit).movedBy offset := by
  unfold push movedBy
  split <;> simp only [Numeral.push_movedBy]

theorem read_movedBy (offset opened position : Nat) (done : BraceText) (text : Text) :
    read (offset + opened) (offset + position) (done.movedBy offset) text =
      ((read opened position done text).map (movedBy offset)).mapError (Refusal.movedBy offset) := by
  induction text generalizing position done with
  | nil => rfl
  | cons c rest ih =>
    have comma : (done.movedBy offset).comma = done.comma := rfl
    rw [read, read, comma, Nat.add_assoc, push_movedBy]
    split_ifs
    · rfl
    · exact ih _ _
    · exact ih _ _
    · exact ih _ { done with comma := true }
    · rfl

theorem bounds_movedBy (offset : Nat) (done : BraceText) :
    (done.movedBy offset).bounds = done.bounds.mapError (Refusal.movedBy offset) := by
  have lower : (done.movedBy offset).lower.bound = _ := Numeral.bound_movedBy offset done.lower
  have upper : (done.movedBy offset).upper.bound = _ := Numeral.bound_movedBy offset done.upper
  unfold bounds
  rw [lower, upper, mapError_bind]
  simp only [mapError_bind]
  refine congrArg _ (funext fun first => congrArg _ (funext fun second => ?_))
  have comma : (done.movedBy offset).comma = done.comma := rfl
  rw [comma]
  split <;> rfl

end BraceText

/-- A quantifier states the same further on, or is refused further on. -/
theorem Repetition.ofQuantifier_movedBy (offset position : Nat) (raw : Text) :
    ofQuantifier raw (offset + position) = (ofQuantifier raw position).mapError (Refusal.movedBy offset) := by
  unfold ofQuantifier
  split
  · rfl
  · rfl
  · rename_i inner
    have read : BraceText.read (offset + position) (offset + position + 1) .empty inner = _ :=
      BraceText.read_movedBy offset position (position + 1) .empty inner
    rw [read, mapError_bind]
    cases BraceText.read position (position + 1) .empty inner with
    | error refusal => rfl
    | ok done => exact BraceText.bounds_movedBy offset done
  · rfl

/-! ## Calls behind a text -/

/-- The same token further on in the text. -/
def LocatedToken.movedBy (offset : Nat) (token : LocatedToken) : LocatedToken :=
  ⟨token.token, offset + token.start⟩

theorem locate_movedBy (offset position : Nat) (tokens : List Token) :
    locate (offset + position) tokens = (locate position tokens).map (LocatedToken.movedBy offset) := by
  induction tokens generalizing position with
  | nil => rfl
  | cons token tokens ih =>
    rw [locate, locate, List.map_cons, Nat.add_assoc, ih]
    rfl

/-- The parts of a call and of the groups around it, and the same parts above one that stands before all of
them. -/
inductive PartsBehind (front : Part) :
    (parts : List Part) → (frames : List Frame) → (others : List Part) → (otherFrames : List Frame) → Prop
  | outermost (parts : List Part) : PartsBehind front parts [] (parts ++ [front]) []
  | inside {before before' : List Part} {frames frames' : List Frame} (parts : List Part) (kind : GroupKind)
      (opening : Text) (behind : PartsBehind front before frames before' frames') :
      PartsBehind front parts (⟨kind, opening, before⟩ :: frames) parts (⟨kind, opening, before'⟩ :: frames')

theorem PartsBehind.adding {front : Part} {parts parts' : List Part} {frames frames' : List Frame}
    (behind : PartsBehind front parts frames parts' frames') (more : List Part) :
    PartsBehind front (more ++ parts) frames (more ++ parts') frames' := by
  cases behind with
  | outermost =>
    rw [← List.append_assoc]
    exact .outermost _
  | inside _ kind opening behind => exact .inside _ kind opening behind

theorem PartsBehind.ofReversed {front : Part} {parts parts' : List Part} {frames' : List Frame}
    (behind : PartsBehind front parts [] parts' frames') :
    Tree.ofReversed parts' = Tree.join front (Tree.ofReversed parts) := by
  cases behind with
  | outermost => rw [Tree.ofReversed, List.foldl_append]; rfl

namespace ReaderState

/-- The token that stands next. -/
def next? (state : ReaderState) : Option Token := state.reader.upcoming.head?.map LocatedToken.token

/-- The second call stands where the first one does, with a text in front of everything. Each has as many groups
open as it has opened. -/
structure Behind (front : Text) (state other : ReaderState) : Prop where
  upcoming : other.reader.upcoming = state.reader.upcoming.map (LocatedToken.movedBy front.byteLength)
  openGroups : other.reader.openGroups = state.reader.openGroups.map (front.byteLength + ·)
  path : other.path = state.path
  parts : PartsBehind (.plain front) state.parts state.frames other.parts other.frames
  balanced : state.frames.length = state.reader.openGroups.length

/-- A call refused while the given token stands next. -/
inductive RefusedAt (readReference : ReferenceReader) : ReaderState → Option Token → Refusal → Prop
  | here {state : ReaderState} {outcome : ReaderOutcome} {token : Option Token} {refusal : Refusal}
      (stands : state.next? = token) (ends : state.step readReference = .done outcome)
      (refused : outcome.answer = .error refusal) : RefusedAt readReference state token refusal
  | later {state next : ReaderState} {token : Option Token} {refusal : Refusal}
      (more : state.step readReference = .more next) (refused : RefusedAt readReference next token refusal) :
      RefusedAt readReference state token refusal

/-- What a step comes to behind a text, told from what it comes to alone and from the token that stands next. -/
inductive StepBehind (front : Text) (token : Option Token) : ReaderStep → ReaderStep → Prop
  | more {next other : ReaderState} (behind : Behind front next other) :
      StepBehind front token (.more next) (.more other)
  | read {outcome other : ReaderOutcome} {tree : Tree} (answer : outcome.answer = .ok tree)
      (answer' : other.answer = .ok (Tree.join (.plain front) tree)) :
      StepBehind front token (.done outcome) (.done other)
  | refused {outcome other : ReaderOutcome} {refusal : Refusal} (itself : ∀ name, token ≠ some (.reference name))
      (located : refusal.isLocated = true) (answer : outcome.answer = .error refusal)
      (answer' : other.answer = .error (refusal.movedBy front.byteLength)) :
      StepBehind front token (.done outcome) (.done other)
  | inBody {outcome other : ReaderOutcome} {refusal : Refusal} {name : Text}
      (reference : token = some (.reference name)) (answer : outcome.answer = .error refusal)
      (answer' : other.answer = .error refusal) :
      StepBehind front token (.done outcome) (.done other)

namespace Behind

variable {front : Text} {readReference : ReferenceReader} {state other : ReaderState}

/-- At the end of the text, the groups of the call are the groups that are open. -/
theorem atEnd (behind : Behind front state other) {token : Option Token}
    (itself : ∀ name, token ≠ some (.reference name)) : StepBehind front token state.atEnd other.atEnd := by
  obtain ⟨⟨upcoming, openGroups⟩, frames, parts, path⟩ := state
  obtain ⟨⟨upcoming', openGroups'⟩, frames', parts', path'⟩ := other
  obtain ⟨-, opened, -, below, balanced⟩ := behind
  dsimp only at opened below balanced
  subst opened
  cases openGroups with
  | nil =>
    obtain rfl := List.length_eq_zero_iff.mp balanced
    exact .read rfl (congrArg Except.ok below.ofReversed)
  | cons innermost outer => exact .refused itself rfl rfl rfl

/-- A group is closed, and what stands below its parts stays below the parts around it. -/
theorem closeGroup {before before' : List Part} {frames frames' : List Frame} {openGroups : List Nat}
    (below : PartsBehind (.plain front) before frames before' frames') (balanced : frames.length = openGroups.length)
    (path : other.path = state.path) (parts : other.parts = state.parts) (kind : GroupKind) (opening : Text)
    (rest : List LocatedToken) {token : Option Token} (itself : ∀ name, token ≠ some (.reference name)) :
    StepBehind front token (state.closeGroup openGroups ⟨kind, opening, before⟩ frames rest)
      (other.closeGroup (openGroups.map (front.byteLength + ·)) ⟨kind, opening, before'⟩ frames'
        (rest.map (LocatedToken.movedBy front.byteLength))) := by
  obtain ⟨reader, outer, parts', path'⟩ := state
  obtain ⟨reader', outer', _, _⟩ := other
  dsimp only at path parts
  subst path parts
  rcases rest with _ | ⟨⟨next, position⟩, rest⟩
  · exact .more ⟨rfl, rfl, rfl, below.adding [_], balanced⟩
  cases next with
  | quantifier raw =>
    have same := Repetition.ofQuantifier_movedBy front.byteLength position raw
    simp only [List.map_cons, LocatedToken.movedBy, closeGroup_quantifier, same]
    cases stated : Repetition.ofQuantifier raw position with
    | error refusal =>
      have located := Refusal.isLocated_of_isAboutQuantifier (Repetition.isAboutQuantifier_ofQuantifier stated)
      exact .refused itself located rfl rfl
    | ok bounds =>
      cases bounds with
      | some repetition => exact .more ⟨rfl, rfl, rfl, below.adding [_], balanced⟩
      | none => exact .more ⟨rfl, rfl, rfl, below.adding [_, _], balanced⟩
  | _ => exact .more ⟨rfl, rfl, rfl, below.adding [_], balanced⟩

/-- One step behind a text does what the step does alone. -/
theorem step (behind : Behind front state other) (readReference : ReferenceReader) :
    StepBehind front state.next? (state.step readReference) (other.step readReference) := by
  have below := behind.parts
  have balanced := behind.balanced
  obtain ⟨⟨upcoming, openGroups⟩, frames, parts, path⟩ := state
  obtain ⟨⟨upcoming', openGroups'⟩, frames', parts', path'⟩ := other
  obtain ⟨rfl, rfl, rfl⟩ : upcoming' = _ ∧ openGroups' = _ ∧ path = path' :=
    ⟨behind.upcoming, behind.openGroups, behind.path.symm⟩
  -- a token that is copied, or a reference that is read, adds a part
  have goesOn (part : Part) (path : AliasPath) (rest : List LocatedToken) (token : Option Token) :
      StepBehind front token (.more ⟨⟨rest, openGroups⟩, frames, part :: parts, path⟩)
        (.more ⟨⟨rest.map (LocatedToken.movedBy front.byteLength), openGroups.map (front.byteLength + ·)⟩,
          frames', part :: parts', path⟩) :=
    .more ⟨rfl, rfl, rfl, below.adding [part], balanced⟩
  rcases upcoming with _ | ⟨⟨token, position⟩, rest⟩
  · exact behind.atEnd nofun
  cases token with
  | endOfInput => exact behind.atEnd nofun
  | opener kind opening => exact .more ⟨rfl, rfl, rfl, .inside [] kind opening below, congrArg Nat.succ balanced⟩
  | closer =>
    cases openGroups with
    | nil => exact .refused nofun rfl rfl rfl
    | cons innermost openGroups =>
      cases below with
      | outermost => cases balanced
      | inside _ kind opening below => exact closeGroup below (Nat.succ.inj balanced) rfl rfl kind opening rest nofun
  | reference name =>
    rw [step_of_reference rfl, step_of_reference rfl, atReference, atReference]
    rcases readReference name path with ⟨refusal | part, later⟩
    · exact .inBody rfl rfl rfl
    · exact goesOn part later rest _
  | plain run => exact goesOn (.plain run) path rest _
  | escape escaped => exact goesOn (.plain ['\\', escaped]) path rest _
  | quantifier raw => exact goesOn (.plain raw) path rest _

end Behind

/-! ## Runs -/

variable {readReference : ReferenceReader} {state other : ReaderState} {front : Text} {token : Option Token}
  {refusal : Refusal} {tree : Tree}

/-- A call is refused just when it is refused at some token. -/
theorem answer_run_eq_error_iff_refusedAt :
    (state.run readReference).answer = .error refusal ↔ ∃ token, RefusedAt readReference state token refusal := by
  constructor
  · intro refused
    fun_induction run readReference state with
    | case1 state next more ih =>
      obtain ⟨token, refused⟩ := ih refused
      exact ⟨token, .later more refused⟩
    | case2 state outcome ends => exact ⟨_, .here rfl ends refused⟩
  · rintro ⟨token, refused⟩
    induction refused with
    | here _ ends refused => rw [run_of_done ends, refused]
    | later more _ ih => rw [run_of_more more, ih]

/-- What is refused behind a text, told from the token that the call is refused at alone. -/
theorem Behind.run_refused (behind : Behind front state other) (refused : RefusedAt readReference state token refusal) :
    ((∃ name, token = some (.reference name)) → (other.run readReference).answer = .error refusal) ∧
    ((∀ name, token ≠ some (.reference name)) → refusal.isLocated = true ∧
      (other.run readReference).answer = .error (refusal.movedBy front.byteLength)) := by
  induction refused generalizing other with
  | @here state outcome token refusal stands ends answer =>
    subst stands
    have went := behind.step readReference
    rw [ends] at went
    generalize step : other.step readReference = stepped at went
    cases went with
    | read tree => cases tree.symm.trans answer
    | @refused _ _ same itself located answer' moved =>
      obtain rfl := Except.error.inj (answer'.symm.trans answer)
      rw [run_of_done step]
      exact ⟨fun ⟨name, inBody⟩ => absurd inBody (itself name), fun _ => ⟨located, moved⟩⟩
    | inBody reference answer' kept =>
      obtain rfl := Except.error.inj (answer'.symm.trans answer)
      rw [run_of_done step]
      exact ⟨fun _ => kept, fun itself => absurd reference (itself _)⟩
  | @later state next token refusal more _ ih =>
    have went := behind.step readReference
    rw [more] at went
    generalize step : other.step readReference = stepped at went
    cases went with
    | more behind =>
      rw [run_of_more step]
      exact ih behind

/-- What is read behind a text has the text in front. -/
theorem Behind.run_read (behind : Behind front state other) (read : (state.run readReference).answer = .ok tree) :
    (other.run readReference).answer = .ok (Tree.join (.plain front) tree) := by
  fun_induction run readReference state generalizing other with
  | case1 state next more ih =>
    have went := behind.step readReference
    rw [more] at went
    generalize step : other.step readReference = stepped at went
    cases went with
    | more behind =>
      rw [run_of_more step]
      exact ih behind read
  | case2 state outcome ends =>
    have went := behind.step readReference
    rw [ends] at went
    generalize step : other.step readReference = stepped at went
    rw [run]
    cases went with
    | read answer answer' =>
      obtain rfl := Except.ok.inj (answer.symm.trans read)
      rw [← run, run_of_done step, answer']
    | refused _ _ answer => cases answer.symm.trans read
    | inBody _ answer => cases answer.symm.trans read

/-- The token that a call is refused at is one of those it was to read. -/
theorem RefusedAt.mem_upcoming {token : Token} (refused : RefusedAt readReference state (some token) refusal) :
    token ∈ state.reader.upcoming.map LocatedToken.token := by
  generalize same : some token = stood at refused
  induction refused with
  | here stands =>
    subst same
    rw [next?, ← List.head?_map] at stands
    exact List.mem_of_head? stands
  | later more _ ih => exact List.map_subset _ (suffix_step more).subset (ih same)

/-- A call that is refused at a reference is refused for what the reference is. -/
theorem RefusedAt.refused_reference {name : Text} (keeps : ∀ name path, (readReference name path).2 = path)
    (refused : RefusedAt readReference state (some (.reference name)) refusal) :
    readReference name state.path = (.error refusal, state.path) := by
  generalize same : some (Token.reference name) = stood at refused
  induction refused with
  | @here state outcome _ refusal stands ends answer =>
    subst same
    obtain ⟨⟨upcoming, openGroups⟩, frames, parts, path⟩ := state
    rcases upcoming with _ | ⟨⟨token, position⟩, rest⟩
    · cases stands
    obtain rfl : token = .reference name := Option.some.inj stands
    have kept := keeps name path
    rw [step_of_reference rfl, atReference] at ends
    rcases found : readReference name path with ⟨refused | part, later⟩
    · rw [found] at ends kept
      obtain rfl := ReaderStep.done.inj ends
      obtain rfl : later = path := kept
      obtain rfl := Except.error.inj answer
      rfl
    · rw [found] at ends
      cases ends
  | @later state next _ _ more _ ih =>
    have kept := path_step keeps state
    rw [more] at kept
    have inner := ih same
    rwa [show next.path = state.path from kept] at inner

end ReaderState

/-! ## Patterns behind an inline setting -/

namespace AliasTable

/-- Whether a pattern is refused for its own text: at its end or at a token that is no reference. -/
def RefusesText (table : AliasTable) (pattern : Text) (refusal : Refusal) : Prop :=
  ∃ token, ReaderState.RefusedAt (Reader.referencesWithin table table.size) (.start (.ofPattern pattern) .empty)
    token refusal ∧ ∀ name, token ≠ some (.reference name)

/-- Whether a pattern is refused at a reference. -/
def RefusesReference (table : AliasTable) (pattern : Text) (refusal : Refusal) : Prop :=
  ∃ name, ReaderState.RefusedAt (Reader.referencesWithin table table.size) (.start (.ofPattern pattern) .empty)
    (some (.reference name)) refusal

variable {table : AliasTable} {pattern name : Text} {refusal : Refusal}

theorem ofPattern_eq_error_iff : Tree.ofPattern table pattern = .error refusal ↔
    table.RefusesText pattern refusal ∨ table.RefusesReference pattern refusal := by
  rw [Tree.ofPattern, Reader.read, Reader.readWithin_eq, ReaderState.answer_run_eq_error_iff_refusedAt]
  constructor
  · rintro ⟨token, refused⟩
    by_cases reference : ∃ name, token = some (.reference name)
    · obtain ⟨name, rfl⟩ := reference
      exact .inr ⟨name, refused⟩
    · exact .inl ⟨token, refused, fun name same => reference ⟨name, same⟩⟩
  · rintro (⟨token, refused, -⟩ | ⟨name, refused⟩)
    · exact ⟨token, refused⟩
    · exact ⟨_, refused⟩

/-- What is refused at a reference of a pattern is refused in the body of the alias. -/
theorem RefusesReference.inBody (refused : table.RefusesReference pattern refusal) :
    ∃ name body, table.RefersTo pattern name body ∧
      (Reader.read table (.ofPattern body) ⟨[name]⟩).answer = .error refusal := by
  obtain ⟨name, refused⟩ := refused
  have occurs := refused.mem_upcoming
  rw [token_upcoming_start] at occurs
  have within := AliasPath.within_empty table
  obtain ⟨body, found, ⟨again, -⟩ | ⟨fresh, less, depth, inner⟩⟩ :=
    Reader.referencesWithin_refused within (Nat.le_add_right _ _)
      (refused.refused_reference Reader.referencesWithin_keeps)
  · cases again
  · refine ⟨name, body, ⟨occurs, found⟩, ?_⟩
    have enough : table.size ≤ less + AliasPath.length ⟨AliasPath.empty.names ++ [name]⟩ := by
      rw [AliasPath.length_enter, depth]
      exact Nat.le_refl _
    have same := readWithin_succ_of_references (referencesWithin_succ (within.enter found fresh) enough)
      (.ofPattern body)
    rw [Reader.read, depth]
    exact (congrArg ReaderOutcome.answer same).symm.trans inner

/-- What a pattern is refused for itself is about a place in it. -/
theorem RefusesText.isLocated (refused : table.RefusesText pattern refusal) : refusal.isLocated = true := by
  obtain ⟨token, refusedAt, itself⟩ := refused
  -- a call behind no text at all refuses it as well, and tells what kind of refusal it is
  have behind : ReaderState.Behind [] (.start (.ofPattern pattern) .empty)
      ⟨⟨(locatedTokens pattern).map (LocatedToken.movedBy 0), []⟩, [], [.plain []], .empty⟩ :=
    ⟨rfl, rfl, rfl, .outermost [], rfl⟩
  exact ((behind.run_refused refusedAt).2 itself).1

end AliasTable

/-- Whether a text in front of a pattern is nothing, or a token of its own. -/
def Text.StandsApart (front pattern : Text) : Prop :=
  front = [] ∨ scan false (front ++ pattern) = (.plain front, pattern)

namespace Text.StandsApart

variable {front pattern : Text} {table : AliasTable} {refusal : Refusal} {tree : Tree}

/-- The token in front is copied, and the call on the pattern stands behind it. -/
theorem exists_behind (read : scan false (front ++ pattern) = (.plain front, pattern))
    (readReference : ReferenceReader) :
    ∃ other, ReaderState.Behind front (.start (.ofPattern pattern) .empty) other ∧
      ((ReaderState.start (.ofPattern (front ++ pattern)) .empty).run readReference).answer =
        (other.run readReference).answer := by
  have tokens := scanAll_of_scan read nofun nofun
  refine ⟨⟨⟨locate front.byteLength (scanAll false pattern), []⟩, [], [.plain front], .empty⟩, ?_, ?_⟩
  · exact ⟨locate_movedBy front.byteLength 0 _, rfl, rfl, .outermost [], rfl⟩
  · have more : (ReaderState.start (.ofPattern (front ++ pattern)) .empty).step readReference =
        .more ⟨⟨locate front.byteLength (scanAll false pattern), []⟩, [], [.plain front], .empty⟩ := by
      rw [ReaderState.start, Reader.ofPattern, locatedTokens, tokens, locate, Token.source, Nat.zero_add]
      rfl
    rw [ReaderState.run_of_more more]

/-- What the pattern itself is refused for is further on. -/
theorem refusesText (apart : front.StandsApart pattern) (refused : table.RefusesText pattern refusal) :
    Tree.ofPattern table (front ++ pattern) = .error (refusal.movedBy front.byteLength) := by
  rcases apart with rfl | read
  · rw [Text.byteLength_nil, Refusal.movedBy_zero]
    exact AliasTable.ofPattern_eq_error_iff.mpr (.inl refused)
  · obtain ⟨token, refusedAt, itself⟩ := refused
    obtain ⟨other, behind, same⟩ := exists_behind read (Reader.referencesWithin table table.size)
    rw [Tree.ofPattern, Reader.read, Reader.readWithin_eq, same]
    exact ((behind.run_refused refusedAt).2 itself).2

/-- What a reference of the pattern is refused for stays what it is. -/
theorem refusesReference (apart : front.StandsApart pattern) (refused : table.RefusesReference pattern refusal) :
    Tree.ofPattern table (front ++ pattern) = .error refusal := by
  rcases apart with rfl | read
  · exact AliasTable.ofPattern_eq_error_iff.mpr (.inr refused)
  · obtain ⟨name, refusedAt⟩ := refused
    obtain ⟨other, behind, same⟩ := exists_behind read (Reader.referencesWithin table table.size)
    rw [Tree.ofPattern, Reader.read, Reader.readWithin_eq, same]
    exact (behind.run_refused refusedAt).1 ⟨name, rfl⟩

/-- What is read is written behind the text in front. -/
theorem exists_tree (apart : front.StandsApart pattern) (read : Tree.ofPattern table pattern = .ok tree) :
    ∃ joined, Tree.ofPattern table (front ++ pattern) = .ok joined ∧ ∀ (unroller : Unroller) (used : Nat),
      unroller.emit used joined = (unroller.emit (used + front.byteLength) tree).map (front ++ ·) := by
  rcases apart with rfl | inFront
  · refine ⟨tree, read, fun unroller used => ?_⟩
    change _ = (unroller.emit used tree).map id
    cases unroller.emit used tree <;> rfl
  · obtain ⟨other, behind, same⟩ := exists_behind inFront (Reader.referencesWithin table table.size)
    rw [Tree.ofPattern, Reader.read, Reader.readWithin_eq] at read ⊢
    exact ⟨_, same.trans (behind.run_read read), fun unroller used => Unroller.emit_join_plain used front tree⟩

end Text.StandsApart

/-- A setting is read as one token of plain text, whatever stands behind it. -/
theorem FlagSet.inlineSetting_standsApart (flags : FlagSet) (pattern : Text) :
    flags.inlineSetting.StandsApart pattern := by
  obtain ⟨_ | _, _ | _, _ | _, _ | _⟩ := flags
  · exact .inl rfl
  all_goals exact .inr rfl

/-- Options written in front of a pattern as an inline setting do not get in the way of unrolling. The pattern is
read behind the setting just when it is read alone. What the pattern itself is refused for is refused further on
by the length of the setting, and what the body of an alias is refused for is refused alike. The setting is
written in front of what the pattern is unrolled to, unless the setting makes it too large. -/
theorem inlineSetting_commutes (table : AliasTable) (ceiling : UInt64) (pattern : Text) (flags : FlagSet) :
    (∀ program, (FlaggedPattern.mk pattern flags program).source = flags.inlineSetting ++ pattern) ∧
    ((∃ tree, Tree.ofPattern table (flags.inlineSetting ++ pattern) = .ok tree) ↔
      ∃ tree, Tree.ofPattern table pattern = .ok tree) ∧
    (∀ refusal, Tree.ofPattern table pattern = .error refusal ↔
      table.RefusesText pattern refusal ∨ table.RefusesReference pattern refusal) ∧
    (∀ refusal, table.RefusesText pattern refusal → refusal.isLocated = true ∧
      Tree.ofPattern table (flags.inlineSetting ++ pattern) =
        .error (refusal.movedBy flags.inlineSetting.byteLength)) ∧
    (∀ refusal, table.RefusesReference pattern refusal →
      (∃ name body, table.RefersTo pattern name body ∧
        (Reader.read table (.ofPattern body) ⟨[name]⟩).answer = .error refusal) ∧
      Tree.ofPattern table (flags.inlineSetting ++ pattern) = .error refusal) ∧
    (∀ unrolled, unrollPattern table ceiling (flags.inlineSetting ++ pattern) = .ok unrolled →
      ∃ alone, unrollPattern table ceiling pattern = .ok alone ∧ unrolled = flags.inlineSetting ++ alone) ∧
    ∀ alone, unrollPattern table ceiling pattern = .ok alone →
      unrollPattern table ceiling (flags.inlineSetting ++ pattern) = .ok (flags.inlineSetting ++ alone) ∨
      unrollPattern table ceiling (flags.inlineSetting ++ pattern) = .error (.tooLarge Unroller.defaultSizeLimit) := by
  have apart := flags.inlineSetting_standsApart pattern
  -- a pattern that is refused alone is refused behind the setting
  have readAlone {joined : Tree} (read : Tree.ofPattern table (flags.inlineSetting ++ pattern) = .ok joined) :
      ∃ tree, Tree.ofPattern table pattern = .ok tree := by
    cases alone : Tree.ofPattern table pattern with
    | ok tree => exact ⟨tree, rfl⟩
    | error refusal =>
      rcases AliasTable.ofPattern_eq_error_iff.mp alone with refused | refused
      · cases read.symm.trans (apart.refusesText refused)
      · cases read.symm.trans (apart.refusesReference refused)
  refine ⟨fun _ => rfl, ⟨fun ⟨_, read⟩ => readAlone read, ?_⟩, fun _ => AliasTable.ofPattern_eq_error_iff,
    fun _ refused => ⟨refused.isLocated, apart.refusesText refused⟩,
    fun _ refused => ⟨refused.inBody, apart.refusesReference refused⟩, ?_, ?_⟩
  · rintro ⟨tree, read⟩
    obtain ⟨joined, readBehind, -⟩ := apart.exists_tree read
    exact ⟨joined, readBehind⟩
  · intro unrolled written
    obtain ⟨joined, readBehind, emitted⟩ := bind_eq_ok.mp written
    obtain ⟨tree, read⟩ := readAlone readBehind
    obtain ⟨joined', readBehind', behind⟩ := apart.exists_tree read
    obtain rfl := Except.ok.inj (readBehind.symm.trans readBehind')
    rw [Unroller.unroll, behind] at emitted
    obtain ⟨alone, inside, rfl⟩ := map_eq_ok.mp emitted
    rw [unrollPattern_of_ofPattern read]
    exact ⟨alone, Unroller.emit_of_le tree (Nat.zero_le _) inside, rfl⟩
  · intro alone written
    obtain ⟨tree, read, emitted⟩ := bind_eq_ok.mp written
    obtain ⟨joined, readBehind, behind⟩ := apart.exists_tree read
    rw [unrollPattern_of_ofPattern readBehind, Unroller.unroll, behind]
    rcases Unroller.emit_elsewhere emitted (0 + flags.inlineSetting.byteLength) with inside | refused
    · rw [inside]
      exact .inl rfl
    · rw [refused]
      exact .inr rfl

/-- A group left open behind a character of two bytes, a body that closes no group, and a pattern that is unrolled. -/
theorem inlineSetting_commutes_strayBody :
    FlagSet.inlineSetting ⟨true, true, false, false⟩ = "(?im)".toList ∧
    strayBody.RefusesText "é(a".toList (.unclosedGroup 2) ∧
    Tree.ofPattern strayBody "(?im)é(a".toList = .error (.unclosedGroup 7) ∧
    strayBody.RefusesReference "(@a".toList (.strayCloser 1) ∧
    Tree.ofPattern strayBody "(?im)(@a".toList = .error (.strayCloser 1) ∧
    (∃ alone, unrollPattern strayBody 1 "(b){2}".toList = .ok alone ∧
      "(?im)(b)(b)".toList = "(?im)".toList ++ alone) ∧
    (unrollPattern strayBody 1 "(?im)(b){2}".toList = .ok "(?im)(b)(b)".toList ∨
      unrollPattern strayBody 1 "(?im)(b){2}".toList = .error (.tooLarge Unroller.defaultSizeLimit)) := by
  have commutes (pattern : Text) := inlineSetting_commutes strayBody 1 pattern ⟨true, true, false, false⟩
  have unclosed : (Tree.ofPattern strayBody "é(a".toList).map (fun _ => ()) = .error (.unclosedGroup 2) := by
    decide +kernel
  have stray : (Tree.ofPattern strayBody "(@a".toList).map (fun _ => ()) = .error (.strayCloser 1) := by
    decide +kernel
  have behind : (Tree.ofPattern strayBody "(?im)(@a".toList).map (fun _ => ()) ≠ .error (.strayCloser 6) := by
    decide +kernel
  have noReference : ∀ token ∈ scanAll false "é(a".toList, token ∈ [.plain ['é'], .opener .capturing ['('],
      .plain ['a'], .endOfInput] := by
    decide +kernel
  obtain ⟨-, -, causes, itself, inBody, -⟩ := commutes "é(a".toList
  obtain ⟨-, -, causes', itself', inBody', -⟩ := commutes "(@a".toList
  have text : strayBody.RefusesText "é(a".toList (.unclosedGroup 2) := by
    refine ((causes _).mp (eq_error_of_map unclosed)).resolve_right fun refused => ?_
    obtain ⟨⟨name, body, refers, -⟩, -⟩ := inBody _ refused
    have listed := noReference _ refers.1
    simp at listed
  have reference : strayBody.RefusesReference "(@a".toList (.strayCloser 1) := by
    refine ((causes' _).mp (eq_error_of_map stray)).resolve_left fun refused => behind ?_
    exact congrArg (Except.map fun _ => ()) (itself' _ refused).2
  obtain ⟨-, -, -, -, -, alone, behindSetting⟩ := commutes "(b){2}".toList
  exact ⟨by decide, text, (itself _ text).2, reference, (inBody' _ reference).2, alone _ (by decide +kernel),
    behindSetting _ (by decide +kernel)⟩

end GroupUnroll
