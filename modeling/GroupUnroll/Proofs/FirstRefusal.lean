import GroupUnroll.Proofs.References

/-! # The first refusal

What a pattern is refused for can be told from its tokens alone, without a tree: go through them in order with
the offsets of the open groups, and stop at the first closing parenthesis without a group, at the first
quantifier that cannot be read, or at the end inside a group. Reading keeps the parts of every open group,
takes a closing parenthesis and the quantifier behind it in one step, and comes to the same refusal. Where
there is none it has consumed the whole pattern.

The groups of a call and the groups that are open agree in number as long as the call has not ended, so
no closing parenthesis is left for a group of another call.
-/

namespace GroupUnroll

/-- The first refusal on the way through tokens in order, with the offsets of the open groups, innermost
first. -/
def firstRefusal : (openGroups : List Nat) → List LocatedToken → Option Refusal
  | _, [] => none
  | openGroups, ⟨token, position⟩ :: rest =>
    match token with
    | .opener _ _ => firstRefusal (position :: openGroups) rest
    | .closer =>
      match openGroups with
      | [] => some (.strayCloser position)
      | _ :: outer => firstRefusal outer rest
    | .quantifier raw =>
      match Repetition.ofQuantifier raw position with
      | .error refusal => some refusal
      | .ok _ => firstRefusal openGroups rest
    | .endOfInput => openGroups.head?.map .unclosedGroup
    | .plain _ | .escape _ | .reference _ => firstRefusal openGroups rest

/-- A call that meets a refusal answers it; one that meets none has come to the end of the input, which
stands at `stop`, with no group open. -/
def ReaderOutcome.Meets (outcome : ReaderOutcome) (stop : Nat) : Option Refusal → Prop
  | some refusal => outcome.answer = .error refusal
  | none => (∃ tree, outcome.answer = .ok tree) ∧ outcome.reader = ⟨[⟨.endOfInput, stop⟩], []⟩

/-! ## Tokens of a text -/

section Tokens

variable {afterClose : Bool} {text next raw : Text} {token : Token} {openGroups : List Nat}

theorem locate_of_scan (position : Nat) (read : scan afterClose text = (token, next))
    (more : token ≠ .endOfInput) (inside : token ≠ .closer) :
    locate position (scanAll afterClose text) =
      ⟨token, position⟩ :: locate (position + token.source.byteLength) (scanAll false next) := by
  rw [scanAll_of_scan read more inside, locate]

theorem byteLength_of_scan (position : Nat) (read : scan afterClose text = (token, next)) :
    position + text.byteLength = position + token.source.byteLength + next.byteLength := by
  have whole := congrArg Text.byteLength (source_append_of_scan read)
  rw [Text.byteLength_append] at whole
  omega

theorem firstRefusal_copied (position : Nat) (rest : List LocatedToken) (isText : token.isText = true) :
    firstRefusal openGroups (⟨token, position⟩ :: rest) = firstRefusal openGroups rest := by
  cases token with
  | plain run => rfl
  | escape escaped => rfl
  | _ => exact absurd isText (by simp [Token.isText])

/-- A quantifier that can be read is passed over. -/
theorem firstRefusal_stated {position : Nat} {rest : List LocatedToken} {bounds : Option Repetition}
    (stated : Repetition.ofQuantifier raw position = .ok bounds) :
    firstRefusal openGroups (⟨.quantifier raw, position⟩ :: rest) = firstRefusal openGroups rest := by
  simp only [firstRefusal, stated]

theorem firstRefusal_refused {position : Nat} {rest : List LocatedToken} {refusal : Refusal}
    (refused : Repetition.ofQuantifier raw position = .error refusal) :
    firstRefusal openGroups (⟨.quantifier raw, position⟩ :: rest) = some refusal := by
  simp only [firstRefusal, refused]

end Tokens

/-! ## Steps -/

/-- Every call that comes to the text, with its own groups open and no others, meets the first refusal of
the tokens before it. -/
def MeetsFirst (readReference : ReferenceReader) (afterClose : Bool) (text : Text) : Prop :=
  ∀ (state : ReaderState) (position : Nat), state.frames.length = state.reader.openGroups.length →
    ((state.facing afterClose text position).run readReference).Meets (position + text.byteLength)
      (firstRefusal state.reader.openGroups (locate position (scanAll afterClose text)))

namespace MeetsFirst

variable {readReference : ReferenceReader} {afterClose : Bool} {text next after : Text}

theorem atEnd : MeetsFirst readReference afterClose [] := by
  intro state position balanced
  have upcoming : locate position (scanAll afterClose []) = [⟨.endOfInput, position⟩] := by
    rw [scanAll, locate, locate]
  have ends : (state.facing afterClose [] position).step readReference =
      (state.facing afterClose [] position).atEnd := by
    rw [ReaderState.step, ReaderState.facing, upcoming]
    rfl
  rw [upcoming, firstRefusal]
  cases opened : state.reader.openGroups with
  | nil =>
    have done : (state.facing afterClose [] position).step readReference =
        .done ⟨.ok (Tree.ofReversed state.parts), ⟨[⟨.endOfInput, position⟩], []⟩, state.path⟩ := by
      rw [ends]
      simp only [ReaderState.atEnd, ReaderState.facing, opened, ReaderState.finish, upcoming]
    rw [ReaderState.run_of_done done]
    exact ⟨⟨_, rfl⟩, rfl⟩
  | cons innermost outer =>
    have done : (state.facing afterClose [] position).step readReference =
        .done ⟨.error (.unclosedGroup innermost), (state.facing afterClose [] position).reader,
          state.path⟩ := by
      rw [ends]
      simp only [ReaderState.atEnd, ReaderState.facing, opened, ReaderState.finish]
    rw [ReaderState.run_of_done done]
    rfl

theorem copied {token : Token} (read : scan afterClose text = (token, next))
    (isText : token.isText = true) (more : MeetsFirst readReference false next) :
    MeetsFirst readReference afterClose text := by
  intro state position balanced
  obtain ⟨goesOn, inside, -⟩ := Token.isText_ne isText
  rw [ReaderState.run_of_more (ReaderState.step_copied position read isText),
    byteLength_of_scan position read, locate_of_scan position read goesOn inside,
    firstRefusal_copied position _ isText]
  exact more (state.adding [.plain token.source]) _ balanced

theorem reference {name : Text} (reads : ∀ name path, ∃ part, readReference name path = (.ok part, path))
    (read : scan afterClose text = (.reference name, next)) (more : MeetsFirst readReference false next) :
    MeetsFirst readReference afterClose text := by
  intro state position balanced
  obtain ⟨part, found⟩ := reads name state.path
  rw [ReaderState.run_of_more (ReaderState.step_reference position read found),
    byteLength_of_scan position read, locate_of_scan position read (by simp) (by simp)]
  exact more (state.adding [part]) _ balanced

theorem opener {kind : GroupKind} {opening : Text} (read : scan afterClose text = (.opener kind opening, next))
    (more : MeetsFirst readReference false next) : MeetsFirst readReference afterClose text := by
  intro state position balanced
  rw [ReaderState.run_of_more (ReaderState.step_opener position read),
    byteLength_of_scan position read, locate_of_scan position read (by simp) (by simp)]
  apply more (state.entering kind opening position)
  exact congrArg Nat.succ balanced

/-- A call that has a group open is inside a group of a call with one group less. -/
theorem exists_entering {state : ReaderState} {opened : Nat} {openGroups : List Nat}
    (balanced : state.frames.length = state.reader.openGroups.length)
    (inside : state.reader.openGroups = opened :: openGroups) :
    ∃ outer kind opening parts, state = (ReaderState.entering outer kind opening opened).adding parts ∧
      outer.reader.openGroups = openGroups ∧ outer.frames.length = outer.reader.openGroups.length := by
  rcases state with ⟨⟨upcoming, groups⟩, frames, parts, path⟩
  dsimp only at balanced inside
  subst inside
  cases frames with
  | nil => exact absurd balanced (by simp)
  | cons frame frames =>
    refine ⟨⟨⟨upcoming, openGroups⟩, frames, frame.before, path⟩, frame.kind, frame.opening, parts, ?_, rfl, ?_⟩
    · simp only [ReaderState.adding, ReaderState.entering, List.append_nil]
    · exact Nat.succ.inj balanced

theorem byteLength_closer (position : Nat) :
    position + Text.byteLength (')' :: after) = position + 1 + after.byteLength := by
  have mark : (')' : Char).utf8Size = 1 := by decide
  rw [Text.byteLength_cons, mark, Nat.add_assoc]

/-- A closing parenthesis that no group waits for. -/
theorem run_stray {state : ReaderState} (position : Nat) (closed : state.reader.openGroups = []) :
    ((state.facing afterClose (')' :: after) position).run readReference).answer =
      .error (.strayCloser position) := by
  have done : (state.facing afterClose (')' :: after) position).step readReference =
      .done ⟨.error (.strayCloser position), (state.facing afterClose (')' :: after) position).reader,
        state.path⟩ := by
    rw [ReaderState.step, ReaderState.facing, scanAll_closer, locate]
    simp only [ReaderState.stepBy, ReaderState.atCloserBy, closed, ReaderState.finish]
    rfl
  rw [ReaderState.run_of_done done]

/-- A closing parenthesis, and the quantifier that may stand behind it. -/
theorem closer (bare : startsQuantifier after = false → MeetsFirst readReference true after)
    (quantified : ∀ raw later, scan true after = (.quantifier raw, later) →
      MeetsFirst readReference false later) : MeetsFirst readReference afterClose (')' :: after) := by
  intro state position balanced
  cases groups : state.reader.openGroups with
  | nil =>
    rw [scanAll_closer, locate]
    exact run_stray position groups
  | cons opened openGroups =>
    obtain ⟨outer, kind, opening, parts, rfl, rfl, balanced⟩ := exists_entering balanced groups
    have tokens : firstRefusal (opened :: outer.reader.openGroups)
        (locate position (scanAll afterClose (')' :: after))) =
          firstRefusal outer.reader.openGroups (locate (position + 1) (scanAll true after)) := by
      rw [scanAll_closer, locate]
      rfl
    have alone : ((outer.entering kind opening opened).adding parts).facing afterClose (')' :: after) position =
        ((outer.entering kind opening opened).adding parts).facing false (')' :: after) position := by
      rw [ReaderState.facing, ReaderState.facing, scanAll_closer, scanAll_closer]
    rw [tokens, byteLength_closer, alone]
    cases unquantified : startsQuantifier after with
    | false =>
      rw [ReaderState.run_of_more (ReaderState.step_closer_bare position unquantified)]
      exact bare unquantified (outer.adding _) (position + 1) balanced
    | true =>
      obtain ⟨raw, later, quantifier⟩ := scan_of_startsQuantifier unquantified
      rw [locate_of_scan (position + 1) quantifier (by simp) (by simp),
        byteLength_of_scan (position + 1) quantifier]
      cases stated : Repetition.ofQuantifier raw (position + 1) with
      | error refusal =>
        obtain ⟨outcome, answer, done⟩ : ∃ outcome : ReaderOutcome, outcome.answer = .error refusal ∧
            (((outer.entering kind opening opened).adding parts).facing false (')' :: after) position).step
              readReference = .done outcome :=
          ReaderState.step_closer_refused position quantifier stated
        rw [firstRefusal_refused stated, ReaderState.run_of_done done]
        exact answer
      | ok bounds =>
        rw [firstRefusal_stated stated,
          ReaderState.run_of_more (ReaderState.step_closer_quantified position quantifier stated)]
        exact quantified raw later quantifier (outer.adding _) _ balanced

end MeetsFirst

/-! ## Calls -/

/-- A call that reads every reference meets the first refusal of the tokens before it, wherever it comes to
a text that no quantifier starts behind a closing parenthesis. -/
theorem meetsFirst {readReference : ReferenceReader}
    (reads : ∀ name path, ∃ part, readReference name path = (.ok part, path)) (text : Text)
    (afterClose : Bool) (unquantified : afterClose = true → startsQuantifier text = false) :
    MeetsFirst readReference afterClose text := by
  induction length : text.length using Nat.strongRecOn generalizing text afterClose with
  | ind size ih =>
    subst length
    rcases text with _ | ⟨c, tail⟩
    · exact .atEnd
    have behind {next : Text} {token : Token} (read : scan afterClose (c :: tail) = (token, next))
        (more : token ≠ .endOfInput) : MeetsFirst readReference false next :=
      ih _ (scan_shorter read more) next false (by simp) rfl
    obtain ⟨⟨token, next⟩, read⟩ : ∃ result, scan afterClose (c :: tail) = result := ⟨_, rfl⟩
    cases token with
    | endOfInput =>
      have nonempty := scan_source_ne_nil afterClose c tail
      rw [read] at nonempty
      exact absurd rfl nonempty
    | quantifier raw =>
      obtain ⟨follows, starts⟩ := startsQuantifier_of_scan read
      rw [unquantified follows] at starts
      exact absurd starts (by decide)
    | plain run => exact .copied read rfl (behind read (by simp))
    | escape escaped => exact .copied read rfl (behind read (by simp))
    | reference name => exact .reference reads read (behind read (by simp))
    | opener kind opening => exact .opener read (behind read (by simp))
    | closer =>
      obtain ⟨mark, same⟩ := List.cons.inj (source_append_of_scan read)
      subst mark same
      apply MeetsFirst.closer
      · intro unquantified
        exact ih _ (Nat.lt_succ_self _) _ true (fun _ => unquantified) rfl
      · intro raw later quantifier
        have shorter := scan_shorter quantifier (by simp)
        exact ih _ (Nat.lt_succ_of_lt shorter) later false (by simp) rfl

/-- With references left alone, a pattern is refused for the first refusal on the way through its tokens, and
is read where there is none; then the whole of it has been consumed and every group is closed. -/
theorem ofPattern_meets_first {table : AliasTable} (off : table.replacing = false) (pattern : Text) :
    (∀ refusal, Tree.ofPattern table pattern = .error refusal ↔
      firstRefusal [] (locatedTokens pattern) = some refusal) ∧
    ((∃ tree, Tree.ofPattern table pattern = .ok tree) ↔
      firstRefusal [] (locatedTokens pattern) = none) ∧
    (firstRefusal [] (locatedTokens pattern) = none →
      ((Reader.ofPattern pattern).read table .empty).reader =
        ⟨[⟨.endOfInput, Text.byteLength pattern⟩], []⟩) := by
  have reads (name : Text) (path : AliasPath) :
      ∃ part, Reader.referencesWithin table table.size name path = (.ok part, path) :=
    ⟨_, (Reader.meansWithin_of_unknown (by simp [AliasTable.replacement?, off])).mpr rfl⟩
  have meets : ((Reader.ofPattern pattern).read table .empty).Meets (Text.byteLength pattern)
      (firstRefusal [] (locatedTokens pattern)) := by
    rw [Reader.read, Reader.readWithin_eq, ← Nat.zero_add (Text.byteLength pattern)]
    exact meetsFirst reads pattern false (by simp) (.start ⟨[], []⟩ .empty) 0 rfl
  unfold Tree.ofPattern
  cases first : firstRefusal [] (locatedTokens pattern) with
  | none =>
    rw [first] at meets
    obtain ⟨⟨tree, answer⟩, consumed⟩ := meets
    rw [answer]
    simp [consumed]
  | some refusal =>
    rw [first] at meets
    have answer : ((Reader.ofPattern pattern).read table .empty).answer = .error refusal := meets
    rw [answer]
    simp

/-- A bad quantifier before a stray parenthesis and an open group, and a pattern that is consumed. -/
theorem ofPattern_meets_first_faults :
    AliasTable.empty.replacing = false ∧
    Tree.ofPattern .empty "é(a)\x7b2x\x7d)(".toList = .error (.badQuantifier 7 'x') ∧
    (∃ tree, Tree.ofPattern .empty "(é)*".toList = .ok tree) ∧
    ((Reader.ofPattern "(é)*".toList).read .empty .empty).reader = ⟨[⟨.endOfInput, 5⟩], []⟩ := by
  have off : AliasTable.empty.replacing = false := rfl
  have refused : firstRefusal [] (locatedTokens "é(a)\x7b2x\x7d)(".toList) =
      some (.badQuantifier 7 'x') := by
    decide +kernel
  have met : firstRefusal [] (locatedTokens "(é)*".toList) = none := by decide +kernel
  obtain ⟨-, read, consumed⟩ := ofPattern_meets_first off "(é)*".toList
  exact ⟨off, ((ofPattern_meets_first off _).1 _).mpr refused, read.mpr met, consumed met⟩

end GroupUnroll
