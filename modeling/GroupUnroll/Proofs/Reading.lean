import GroupUnroll.Proofs.Grammar
import GroupUnroll.Proofs.Quantifier
import GroupUnroll.Tree.Reader

/-! # Reading follows the grammar

One step of a call deals with one rule of the grammar. Where a text spells a tree, the call goes on
behind it with the parts of that tree added; every other text is refused. So a call on a whole pattern
answers a tree exactly if the pattern spells it.
-/

namespace GroupUnroll

namespace ReaderState

variable {readReference : ReferenceReader} {state next : ReaderState} {outcome : ReaderOutcome}

theorem run_of_more (more : state.step readReference = .more next) :
    state.run readReference = next.run readReference := by
  rw [run]
  split
  · rename_i other same
    rw [more] at same
    rw [ReaderStep.more.inj same]
  · rename_i outcome same
    rw [more] at same
    exact absurd same (by simp)

theorem run_of_done (done : state.step readReference = .done outcome) :
    state.run readReference = outcome := by
  rw [run]
  split
  · rename_i other same
    rw [done] at same
    exact absurd same (by simp)
  · rename_i outcome same
    rw [done] at same
    exact (ReaderStep.done.inj same).symm

/-- The same call before `text`, which stands at `position`. -/
def facing (state : ReaderState) (afterClose : Bool) (text : Text) (position : Nat) : ReaderState :=
  { state with reader := { state.reader with upcoming := locate position (scanAll afterClose text) } }

/-- The same call with more parts in the innermost group, the last part first. -/
def adding (state : ReaderState) (parts : List Part) : ReaderState :=
  { state with parts := parts ++ state.parts }

/-- The same call inside a group that is opened at `position`. -/
def entering (state : ReaderState) (kind : GroupKind) (opening : Text) (position : Nat) : ReaderState :=
  ⟨⟨state.reader.upcoming, position :: state.reader.openGroups⟩,
    ⟨kind, opening, state.parts⟩ :: state.frames, [], state.path⟩

@[simp] theorem adding_nil : state.adding [] = state := rfl

theorem adding_adding (first second : List Part) :
    (state.adding first).adding second = state.adding (second ++ first) := by
  simp only [adding, List.append_assoc]

/-! ## Single steps -/

section Steps

variable {afterClose : Bool} {text next opening name after later raw : Text} {token : Token}
  {part : Part} {kind : GroupKind} {parts : List Part} {opened : Nat}

theorem upcoming_facing (position : Nat) (read : scan afterClose text = (token, next))
    (more : token ≠ .endOfInput) (inside : token ≠ .closer) :
    (state.facing afterClose text position).reader.upcoming =
      ⟨token, position⟩ :: locate (position + token.source.byteLength) (scanAll false next) := by
  rw [facing, scanAll_of_scan read more inside, locate]

theorem step_copied (position : Nat) (read : scan afterClose text = (token, next))
    (isText : token.isText = true) :
    (state.facing afterClose text position).step readReference =
      .more ((state.adding [.plain token.source]).facing false next
        (position + token.source.byteLength)) := by
  obtain ⟨more, inside, -⟩ := Token.isText_ne isText
  unfold step stepBy
  rw [upcoming_facing position read more inside]
  cases token with
  | plain run => rfl
  | escape escaped => rfl
  | _ => exact absurd isText (by simp [Token.isText])

theorem step_opener (position : Nat) (read : scan afterClose text = (.opener kind opening, next)) :
    (state.facing afterClose text position).step readReference =
      .more ((state.entering kind opening position).facing false next
        (position + opening.byteLength)) := by
  unfold step stepBy
  rw [upcoming_facing position read (by simp) (by simp)]
  rfl

private theorem step_at_reference (position : Nat)
    (read : scan afterClose text = (.reference name, next)) :
    (state.facing afterClose text position).step readReference =
      match readReference name state.path with
      | (.ok part, path) =>
        .more (ReaderState.facing { state.adding [part] with path } false next
          (position + (Token.reference name).source.byteLength))
      | (.error refusal, path) =>
        .done ⟨.error refusal, (state.facing false next
          (position + (Token.reference name).source.byteLength)).reader, path⟩ := by
  unfold step stepBy
  rw [upcoming_facing position read (by simp) (by simp)]
  rfl

theorem step_reference (position : Nat) (read : scan afterClose text = (.reference name, next))
    (found : readReference name state.path = (.ok part, state.path)) :
    (state.facing afterClose text position).step readReference =
      .more ((state.adding [part]).facing false next
        (position + (Token.reference name).source.byteLength)) := by
  rw [step_at_reference position read, found]
  rfl

theorem step_reference_refused (position : Nat) {refusal : Refusal} {path : AliasPath}
    (read : scan afterClose text = (.reference name, next))
    (refused : readReference name state.path = (.error refusal, path)) :
    ∃ reader, (state.facing afterClose text position).step readReference =
      .done ⟨.error refusal, reader, path⟩ := by
  rw [step_at_reference position read, refused]
  exact ⟨_, rfl⟩

private theorem step_at_closer (position : Nat) :
    (((state.entering kind opening opened).adding parts).facing false (')' :: after) position).step
        readReference =
      ((state.entering kind opening opened).adding parts).closeGroup state.reader.openGroups
        ⟨kind, opening, state.parts⟩ state.frames (locate (position + 1) (scanAll true after)) := by
  unfold step stepBy
  rw [facing, scanAll_closer, locate]
  rfl

private theorem closeGroup_unquantified (openGroups : List Nat) (frame : Frame) (frames : List Frame)
    (unquantified : startsQuantifier after = false) (position : Nat) :
    state.closeGroup openGroups frame frames (locate position (scanAll true after)) =
      .more ⟨⟨locate position (scanAll true after), openGroups⟩, frames,
        .group frame.kind frame.opening (Tree.ofReversed state.parts) none :: frame.before,
        state.path⟩ := by
  unfold closeGroup closeGroupBy
  split
  · rename_i raw start rest upcoming
    cases after with
    | nil => simp [scanAll, locate] at upcoming
    | cons c tail =>
      rw [scanAll, locate] at upcoming
      have quantifier : (scan true (c :: tail)).1 = .quantifier raw :=
        congrArg LocatedToken.token (List.cons.inj upcoming).1
      have starts := (startsQuantifier_of_scan (Prod.ext quantifier rfl)).2
      rw [unquantified] at starts
      exact absurd starts (by decide)
  · rfl

theorem step_closer_bare (position : Nat) (unquantified : startsQuantifier after = false) :
    (((state.entering kind opening opened).adding parts).facing false (')' :: after) position).step
        readReference =
      .more ((state.adding [.group kind opening (Tree.ofReversed parts) none]).facing true after
        (position + 1)) := by
  rw [step_at_closer, closeGroup_unquantified _ _ _ unquantified]
  simp only [adding, entering, List.append_nil]
  rfl

private theorem step_at_quantifier (position : Nat)
    (quantifier : scan true after = (.quantifier raw, later)) :
    (((state.entering kind opening opened).adding parts).facing false (')' :: after) position).step
        readReference =
      ((state.entering kind opening opened).adding parts).withBounds state.reader.openGroups
        ⟨kind, opening, state.parts⟩ state.frames raw
        (locate (position + 1 + raw.byteLength) (scanAll false later))
        (Repetition.ofQuantifier raw (position + 1)) := by
  rw [step_at_closer, scanAll_of_scan quantifier (by simp) (by simp), locate, closeGroup_quantifier]
  rfl

/-- The parts a group and the quantifier after it add, the last part first. -/
def quantifiedParts (kind : GroupKind) (opening : Text) (body : Tree) (raw : Text) :
    Option Repetition → List Part
  | some repetition => [.group kind opening body (some repetition)]
  | none => [.plain raw, .group kind opening body none]

theorem step_closer_quantified (position : Nat) {bounds : Option Repetition}
    (quantifier : scan true after = (.quantifier raw, later))
    (stated : Repetition.ofQuantifier raw (position + 1) = .ok bounds) :
    (((state.entering kind opening opened).adding parts).facing false (')' :: after) position).step
        readReference =
      .more ((state.adding (quantifiedParts kind opening (Tree.ofReversed parts) raw bounds)).facing
        false later (position + 1 + raw.byteLength)) := by
  rw [step_at_quantifier position quantifier, stated]
  cases bounds <;> simp only [withBounds, adding, entering, List.append_nil] <;> rfl

theorem step_closer_refused (position : Nat) {refusal : Refusal}
    (quantifier : scan true after = (.quantifier raw, later))
    (refused : Repetition.ofQuantifier raw (position + 1) = .error refusal) :
    ∃ outcome : ReaderOutcome, outcome.answer = .error refusal ∧
      (((state.entering kind opening opened).adding parts).facing false (')' :: after) position).step
        readReference = .done outcome := by
  rw [step_at_quantifier position quantifier, refused]
  exact ⟨_, rfl, rfl⟩

end Steps

end ReaderState

theorem Tree.ofReversed_append (last first : List Part) :
    Tree.ofReversed (last ++ first) =
      first.foldl (fun tree part => Tree.join part tree) (Tree.ofReversed last) := by
  simp only [Tree.ofReversed, List.foldl_append]

/-! ## Calls -/

variable {readReference : ReferenceReader} {path : AliasPath} {afterClose : Bool} {text rest : Text}
  {tree : Tree}

/-- What a reference may be read as while the aliases of a path are being read. -/
def ReferenceReader.Means (readReference : ReferenceReader) (path : AliasPath) (name : Text)
    (part : Part) : Prop :=
  readReference name path = (.ok part, path)

/-- A call that comes to a spelled text goes on behind it with the parts of the tree added. -/
theorem Spells.run (spells : Spells (ReferenceReader.Means readReference path) afterClose text tree rest) :
    ∃ parts, Tree.ofReversed parts = tree ∧
      ∀ (state : ReaderState) (position : Nat), state.path = path →
        ∃ stop, (state.facing afterClose text position).run readReference =
          ((state.adding parts).facing false rest stop).run readReference := by
  induction spells with
  | atEnd =>
    refine ⟨[], rfl, fun state position _ => ⟨position, ?_⟩⟩
    simp only [ReaderState.facing, scanAll, ReaderState.adding_nil]
  | atCloser =>
    refine ⟨[], rfl, fun state position _ => ⟨position, ?_⟩⟩
    simp only [ReaderState.facing, scanAll_closer, ReaderState.adding_nil]
  | @copied _ _ _ _ token _ read isText _ ih =>
    obtain ⟨parts, rfl, ih⟩ := ih
    refine ⟨parts ++ [.plain token.source], Tree.ofReversed_append .., fun state position same => ?_⟩
    rw [ReaderState.run_of_more (ReaderState.step_copied position read isText), ← ReaderState.adding_adding]
    exact ih _ _ same
  | @reference _ _ _ _ name part _ read found _ ih =>
    obtain ⟨parts, rfl, ih⟩ := ih
    refine ⟨parts ++ [part], Tree.ofReversed_append .., fun state position same => ?_⟩
    rw [ReaderState.run_of_more (ReaderState.step_reference position read (by rw [same]; exact found)),
      ← ReaderState.adding_adding]
    exact ih _ _ same
  | @bare _ _ _ after _ opening kind _ _ read _ unquantified _ ihBody ih =>
    obtain ⟨inner, rfl, ihBody⟩ := ihBody
    obtain ⟨parts, rfl, ih⟩ := ih
    refine ⟨parts ++ [.group kind opening (Tree.ofReversed inner) none], ?_, fun state position same => ?_⟩
    · exact Tree.ofReversed_append ..
    · obtain ⟨close, reached⟩ := ihBody (state.entering kind opening position) _ same
      rw [ReaderState.run_of_more (ReaderState.step_opener position read), reached,
        ReaderState.run_of_more (ReaderState.step_closer_bare close unquantified),
        ← ReaderState.adding_adding]
      exact ih _ _ same
  | @quantified _ _ _ after _ _ opening raw kind _ _ bounds read _ quantifier stated _ ihBody ih =>
    obtain ⟨inner, rfl, ihBody⟩ := ihBody
    obtain ⟨parts, rfl, ih⟩ := ih
    refine ⟨parts ++ ReaderState.quantifiedParts kind opening (Tree.ofReversed inner) raw bounds, ?_,
      fun state position same => ?_⟩
    · rw [Tree.ofReversed_append]
      cases bounds <;> rfl
    · obtain ⟨close, reached⟩ := ihBody (state.entering kind opening position) _ same
      rw [ReaderState.run_of_more (ReaderState.step_opener position read), reached,
        ReaderState.run_of_more (ReaderState.step_closer_quantified close quantifier (stated _)),
        ← ReaderState.adding_adding]
      exact ih _ _ same

/-- Every call that comes to the text on the path is refused. -/
def Refuses (readReference : ReferenceReader) (path : AliasPath) (afterClose : Bool) (text : Text) :
    Prop :=
  ∀ (state : ReaderState) (position : Nat), state.path = path →
    ∃ refusal, ((state.facing afterClose text position).run readReference).answer = .error refusal

theorem scan_shorter {text next : Text} {token : Token}
    (read : scan afterClose text = (token, next)) (more : token ≠ .endOfInput) :
    next.length < text.length := by
  cases text with
  | nil => exact absurd (congrArg Prod.fst read).symm more
  | cons c tail =>
    have shorter := scan_length_lt afterClose c tail
    rwa [read] at shorter

/-- The text is read or refused once every shorter text is that does not start with a quantifier. -/
private abbrev Decided (readReference : ReferenceReader) (path : AliasPath) (afterClose : Bool)
    (text : Text) : Prop :=
  (∃ tree rest, Spells (ReferenceReader.Means readReference path) afterClose text tree rest) ∨
    Refuses readReference path afterClose text

/-- A group whose body is spelled up to its closing parenthesis is read or refused with what follows. -/
private theorem decided_group {kind : GroupKind} {opening next after : Text} {body : Tree}
    (read : scan afterClose text = (.opener kind opening, next))
    (inner : Spells (ReferenceReader.Means readReference path) false next body (')' :: after))
    (ih : ∀ later : Text, later.length < text.length → ∀ follows : Bool,
      (follows = true → startsQuantifier later = false) → Decided readReference path follows later) :
    Decided readReference path afterClose text := by
  obtain ⟨parts, rfl, reaches⟩ := inner.run
  have shorter : after.length < text.length := by
    have first := scan_shorter read (by simp)
    have second := inner.suffix.length_le
    rw [List.length_cons] at second
    omega
  cases unquantified : startsQuantifier after with
  | false =>
    rcases ih after shorter true (fun _ => unquantified) with ⟨tree, rest, more⟩ | refuses
    · exact .inl ⟨_, _, .bare read inner unquantified more⟩
    · refine .inr fun state position same => ?_
      obtain ⟨close, reached⟩ := reaches (state.entering kind opening position) _ same
      rw [ReaderState.run_of_more (ReaderState.step_opener position read), reached,
        ReaderState.run_of_more (ReaderState.step_closer_bare close unquantified)]
      exact refuses _ _ same
  | true =>
    obtain ⟨raw, later, quantifier⟩ := scan_of_startsQuantifier unquantified
    cases stated : Repetition.ofQuantifier raw 0 with
    | ok bounds =>
      have stated := Repetition.ofQuantifier_position stated
      have nearer := Nat.lt_trans (scan_shorter quantifier (by simp)) shorter
      rcases ih later nearer false (by simp) with ⟨tree, rest, more⟩ | refuses
      · exact .inl ⟨_, _, .quantified read inner quantifier stated more⟩
      · refine .inr fun state position same => ?_
        obtain ⟨close, reached⟩ := reaches (state.entering kind opening position) _ same
        rw [ReaderState.run_of_more (ReaderState.step_opener position read), reached,
          ReaderState.run_of_more (ReaderState.step_closer_quantified close quantifier (stated _))]
        exact refuses _ _ same
    | error refusal =>
      refine .inr fun state position same => ?_
      obtain ⟨close, reached⟩ := reaches (state.entering kind opening position) _ same
      rw [ReaderState.run_of_more (ReaderState.step_opener position read), reached]
      cases elsewhere : Repetition.ofQuantifier raw (close + 1) with
      | ok bounds =>
        rw [Repetition.ofQuantifier_position elsewhere 0] at stated
        exact absurd stated (by simp)
      | error refusal =>
        obtain ⟨outcome, answer, done⟩ : ∃ outcome : ReaderOutcome, outcome.answer = .error refusal ∧
            (((state.entering kind opening position).adding parts).facing false (')' :: after) close).step
              readReference = .done outcome :=
          ReaderState.step_closer_refused close quantifier elsewhere
        rw [ReaderState.run_of_done done]
        exact ⟨refusal, answer⟩

private theorem decided_copied {next : Text} {token : Token}
    (read : scan afterClose text = (token, next)) (isText : token.isText = true)
    (ih : Decided readReference path false next) : Decided readReference path afterClose text := by
  rcases ih with ⟨tree, rest, more⟩ | refuses
  · exact .inl ⟨_, _, .copied read isText more⟩
  · refine .inr fun state position same => ?_
    rw [ReaderState.run_of_more (ReaderState.step_copied position read isText)]
    exact refuses _ _ same

private theorem decided_reference {next name : Text}
    (keeps : ∀ name part later, readReference name path = (.ok part, later) → later = path)
    (read : scan afterClose text = (.reference name, next))
    (ih : Decided readReference path false next) : Decided readReference path afterClose text := by
  obtain ⟨⟨answer, later⟩, found⟩ : ∃ result, readReference name path = result := ⟨_, rfl⟩
  cases answer with
  | error refusal =>
    refine .inr fun state position same => ?_
    obtain ⟨reader, done⟩ := ReaderState.step_reference_refused position read (by rw [same]; exact found)
    rw [ReaderState.run_of_done done]
    exact ⟨refusal, rfl⟩
  | ok part =>
    obtain rfl := keeps name part later found
    rcases ih with ⟨tree, rest, more⟩ | refuses
    · exact .inl ⟨_, _, .reference read found more⟩
    · refine .inr fun state position same => ?_
      rw [ReaderState.run_of_more (ReaderState.step_reference position read (by rw [same]; exact found))]
      exact refuses _ _ same

/-- A group whose opener the text ends inside of is refused. -/
private theorem refuses_unclosed {kind : GroupKind} {opening next : Text} {body : Tree}
    (read : scan afterClose text = (.opener kind opening, next))
    (inner : Spells (ReferenceReader.Means readReference path) false next body []) :
    Refuses readReference path afterClose text := by
  obtain ⟨parts, -, reaches⟩ := inner.run
  intro state position same
  obtain ⟨stop, reached⟩ := reaches (state.entering kind opening position) _ same
  refine ⟨.unclosedGroup position, ?_⟩
  rw [ReaderState.run_of_more (ReaderState.step_opener position read), reached,
    ReaderState.run_of_done (by rw [ReaderState.step, ReaderState.facing, scanAll, locate]; rfl)]

/-- A call either reads the text up to its end or the end of the enclosing group, or is refused. -/
theorem spells_or_refuses
    (keeps : ∀ name part later, readReference name path = (.ok part, later) → later = path)
    (text : Text) (afterClose : Bool)
    (unquantified : afterClose = true → startsQuantifier text = false) :
    Decided readReference path afterClose text := by
  induction length : text.length using Nat.strongRecOn generalizing text afterClose with
  | ind size ih =>
    subst length
    have shorter (later : Text) (less : later.length < text.length) (follows : Bool)
        (unquantified : follows = true → startsQuantifier later = false) :
        Decided readReference path follows later := ih _ less later follows unquantified rfl
    rcases text with _ | ⟨c, tail⟩
    · exact .inl ⟨_, _, .atEnd⟩
    obtain ⟨⟨token, next⟩, read⟩ : ∃ result, scan afterClose (c :: tail) = result := ⟨_, rfl⟩
    have source := scan_source afterClose (c :: tail)
    have nonempty := scan_source_ne_nil afterClose c tail
    rw [read] at source nonempty
    cases token with
    | endOfInput => exact absurd rfl nonempty
    | closer =>
      obtain ⟨rfl, rfl⟩ := List.cons.inj source
      exact .inl ⟨_, _, .atCloser⟩
    | quantifier raw =>
      obtain ⟨follows, starts⟩ := startsQuantifier_of_scan read
      rw [unquantified follows] at starts
      exact absurd starts (by decide)
    | plain run => exact decided_copied read rfl (shorter next (scan_shorter read (by simp)) false (by simp))
    | escape escaped =>
      exact decided_copied read rfl (shorter next (scan_shorter read (by simp)) false (by simp))
    | reference name =>
      exact decided_reference keeps read (shorter next (scan_shorter read (by simp)) false (by simp))
    | opener kind opening =>
      rcases shorter next (scan_shorter read (by simp)) false (by simp) with ⟨body, rest, inner⟩ | refuses
      · rcases inner.rest_cases with rfl | ⟨after, rfl⟩
        · exact .inr (refuses_unclosed read inner)
        · exact decided_group read inner shorter
      · refine .inr fun state position same => ?_
        rw [ReaderState.run_of_more (ReaderState.step_opener position read)]
        exact refuses _ _ same

/-- A call on a whole text answers a tree exactly if the text spells it. -/
theorem run_ofPattern_eq_ok_iff
    (keeps : ∀ name part later, readReference name path = (.ok part, later) → later = path) :
    ((ReaderState.start (Reader.ofPattern text) path).run readReference).answer = .ok tree ↔
      Spells (ReferenceReader.Means readReference path) false text tree [] := by
  have begins : ReaderState.start (Reader.ofPattern text) path =
      (ReaderState.start ⟨[], []⟩ path).facing false text 0 := rfl
  rw [begins]
  have ends {read : Tree} (spells : Spells (ReferenceReader.Means readReference path) false text read []) :
      (((ReaderState.start ⟨[], []⟩ path).facing false text 0).run readReference).answer = .ok read := by
    obtain ⟨parts, rfl, reaches⟩ := spells.run
    obtain ⟨stop, reached⟩ := reaches (.start ⟨[], []⟩ path) 0 rfl
    rw [reached, ReaderState.run_of_done (by rw [ReaderState.step, ReaderState.facing, scanAll, locate]; rfl)]
    simp [ReaderState.adding, ReaderState.start]
  constructor
  · intro answer
    rcases spells_or_refuses keeps text false (by simp) with ⟨read, rest, spells⟩ | refuses
    · rcases spells.rest_cases with rfl | ⟨after, rfl⟩
      · rw [ends spells] at answer
        exact Except.ok.inj answer ▸ spells
      · -- a closing parenthesis that no group waits for
        obtain ⟨parts, -, reaches⟩ := spells.run
        obtain ⟨stop, reached⟩ := reaches (.start ⟨[], []⟩ path) 0 rfl
        rw [reached, ReaderState.run_of_done
          (by rw [ReaderState.step, ReaderState.facing, scanAll_closer, locate]; rfl)] at answer
        exact absurd answer (by simp)
    · obtain ⟨refusal, refused⟩ := refuses (.start ⟨[], []⟩ path) 0 rfl
      rw [refused] at answer
      exact absurd answer (by simp)
  · exact ends

end GroupUnroll
