import GroupUnroll.Proofs.Calls
import GroupUnroll.Proofs.Coverage
import GroupUnroll.Proofs.Nesting
import GroupUnroll.Proofs.Origin
import Mathlib.Data.List.Induction

/-! # Groups left open

A reader keeps the offsets of the open groups from one call to the next, also after a refusal. Which groups these
ought to be can be told from the tokens consumed so far: an opener is waiting until a closing parenthesis is
consumed with a balanced run of tokens between the two. One pass over the tokens, which takes the innermost group
away at every closing parenthesis, comes to the same groups. Every step of a call does to the open groups what
this pass does with the tokens that the step consumes, whether the step goes on, ends the call or is refused.

A call is refused for its groups at a closing parenthesis that no opener waits for, or at the end of the text for
the innermost opener that does. Both may happen in a call for the body of an alias, and are then about the body.
-/

namespace GroupUnroll

/-! ## Openers that wait -/

/-- An opener whose closing parenthesis is not among the tokens: wherever there is one behind it, the tokens between
the two are not balanced. -/
def Unclosed (tokens : List LocatedToken) (position : Nat) : Prop :=
  ∃ before kind opening after, tokens = before ++ ⟨.opener kind opening, position⟩ :: after ∧
    ∀ inner closed later, after = inner ++ ⟨.closer, closed⟩ :: later →
      ¬ Balanced (inner.map LocatedToken.token)

/-- An opener behind which `depth` groups have been opened in its own, and not closed. -/
def Waits (tokens : List LocatedToken) (position depth : Nat) : Prop :=
  ∃ before kind opening after, tokens = before ++ ⟨.opener kind opening, position⟩ :: after ∧
    nesting? 0 (after.map LocatedToken.token) = some depth

namespace Waits

variable {tokens : List LocatedToken} {located : LocatedToken} {position depth deeper : Nat}

theorem here (kind : GroupKind) (opening : Text) :
    Waits (tokens ++ [⟨.opener kind opening, position⟩]) position 0 :=
  ⟨tokens, kind, opening, [], rfl, rfl⟩

theorem behind (waits : Waits tokens position depth) (nest : located.token.nest? depth = some deeper) :
    Waits (tokens ++ [located]) position deeper := by
  obtain ⟨before, kind, opening, after, rfl, nested⟩ := waits
  refine ⟨before, kind, opening, after ++ [located], by simp, ?_⟩
  rw [List.map_append, List.map_singleton, nesting?_concat, nested]
  exact nest

end Waits

/-- An opener waits exactly if the tokens behind it close no group of others. -/
theorem unclosed_iff_waits {tokens : List LocatedToken} {position : Nat} :
    Unclosed tokens position ↔ ∃ depth, Waits tokens position depth := by
  constructor
  · rintro ⟨before, kind, opening, after, rfl, unmatched⟩
    suffices nested : nesting? 0 (after.map LocatedToken.token) ≠ none by
      obtain ⟨depth, nested⟩ := Option.ne_none_iff_exists'.mp nested
      exact ⟨depth, before, kind, opening, after, rfl, nested⟩
    intro closes
    obtain ⟨inner, later, whole, balanced⟩ := nesting?_eq_none_iff.mp closes
    obtain ⟨first, second, rfl, rfl, behind⟩ := List.map_eq_append_iff.mp whole
    obtain ⟨⟨_, closed⟩, rest, rfl, rfl, rfl⟩ := List.map_eq_cons_iff.mp behind
    exact unmatched first closed rest rfl balanced
  · rintro ⟨depth, before, kind, opening, after, rfl, nested⟩
    refine ⟨before, kind, opening, after, rfl, ?_⟩
    rintro inner closed later rfl balanced
    rw [nesting?_eq_none_iff.mpr ⟨_, _, by rw [List.map_append, List.map_cons], balanced⟩] at nested
    cases nested

/-! ## The pass over the tokens -/

/-- The offsets of the groups open after a token, innermost first. -/
def LocatedToken.openGroups (before : List Nat) (located : LocatedToken) : List Nat :=
  match located.token with
  | .opener _ _ => located.start :: before
  | .closer => before.tail
  | _ => before

/-- The offsets of the groups that tokens leave open, innermost first. -/
def groupsLeftOpen (tokens : List LocatedToken) : List Nat := tokens.foldl LocatedToken.openGroups []

section LeftOpen

variable {tokens : List LocatedToken} {located : LocatedToken} {position depth deeper : Nat}
  {inner outer : List Nat}

theorem groupsLeftOpen_concat : groupsLeftOpen (tokens ++ [located]) = located.openGroups (groupsLeftOpen tokens) := by
  rw [groupsLeftOpen, List.foldl_append, List.foldl_cons, List.foldl_nil, groupsLeftOpen]

/-- A group that is left open was opened before as many others as are open within it. -/
theorem waits_of_groupsLeftOpen (leaves : groupsLeftOpen tokens = inner ++ position :: outer) :
    Waits tokens position inner.length := by
  induction tokens using List.reverseRecOn generalizing inner with
  | nil => exact absurd leaves (by simp [groupsLeftOpen])
  | append_singleton tokens located ih =>
    rw [groupsLeftOpen_concat] at leaves
    obtain ⟨token, start⟩ := located
    cases token with
    | opener kind opening =>
      rcases inner with _ | ⟨last, inner⟩
      · obtain ⟨rfl, -⟩ := List.cons.inj leaves
        exact .here kind opening
      · exact (ih (List.cons.inj leaves).2).behind rfl
    | closer =>
      cases groups : groupsLeftOpen tokens with
      | nil =>
        rw [groups] at leaves
        exact absurd leaves (by simp [LocatedToken.openGroups])
      | cons closed others =>
        rw [groups] at leaves
        obtain rfl : others = inner ++ position :: outer := leaves
        have waits : Waits tokens position (closed :: inner).length := ih groups
        exact waits.behind rfl
    | _ => exact (ih leaves).behind rfl

theorem LocatedToken.openGroups_append (nest : located.token.nest? inner.length = some deeper) (outer : List Nat) :
    ∃ opened, opened.length = deeper ∧ located.openGroups (inner ++ outer) = opened ++ outer := by
  obtain ⟨token, start⟩ := located
  cases token with
  | opener kind opening => exact ⟨start :: inner, Option.some.inj nest, rfl⟩
  | closer =>
    rcases inner with _ | ⟨closed, inner⟩
    · exact absurd nest (by simp [Token.nest?])
    · exact ⟨inner, Option.some.inj nest, rfl⟩
  | _ => exact ⟨inner, Option.some.inj nest, rfl⟩

/-- Tokens that close no group of others leave these open. -/
theorem openGroups_append (nested : nesting? inner.length (tokens.map LocatedToken.token) = some depth)
    (outer : List Nat) :
    ∃ opened, tokens.foldl LocatedToken.openGroups (inner ++ outer) = opened ++ outer := by
  induction tokens generalizing inner with
  | nil => exact ⟨inner, rfl⟩
  | cons located tokens ih =>
    rw [List.map_cons, nesting?_cons] at nested
    obtain ⟨deeper, nest, nested⟩ := Option.bind_eq_some_iff.mp nested
    obtain ⟨opened, rfl, next⟩ := LocatedToken.openGroups_append nest outer
    rw [List.foldl_cons, next]
    exact ih nested

/-- The groups left open are the ones of the openers that wait. -/
theorem mem_groupsLeftOpen : position ∈ groupsLeftOpen tokens ↔ Unclosed tokens position := by
  rw [unclosed_iff_waits]
  constructor
  · intro member
    obtain ⟨inner, outer, leaves⟩ := List.append_of_mem member
    exact ⟨inner.length, waits_of_groupsLeftOpen leaves⟩
  · rintro ⟨depth, before, kind, opening, after, rfl, nested⟩
    have closes : nesting? ([] : List Nat).length (after.map LocatedToken.token) = some depth := nested
    obtain ⟨opened, leaves⟩ := openGroups_append closes (position :: groupsLeftOpen before)
    have groups : groupsLeftOpen (before ++ ⟨.opener kind opening, position⟩ :: after) =
        opened ++ position :: groupsLeftOpen before := by
      rw [groupsLeftOpen, List.foldl_append, List.foldl_cons]
      exact leaves
    rw [groups]
    exact List.mem_append_right _ (List.mem_cons_self ..)

/-- From the outermost on, the groups left open stand in the order of their openers. -/
theorem sublist_groupsLeftOpen (tokens : List LocatedToken) :
    (groupsLeftOpen tokens).reverse.Sublist (tokens.map LocatedToken.start) := by
  induction tokens using List.reverseRecOn with
  | nil => exact List.Sublist.refl _
  | append_singleton tokens located ih =>
    rw [groupsLeftOpen_concat, List.map_append, List.map_singleton]
    have before := ih.trans (List.sublist_append_left _ [located.start])
    obtain ⟨token, start⟩ := located
    cases token with
    | opener kind opening =>
      rw [LocatedToken.openGroups, List.reverse_cons]
      exact ih.append (List.Sublist.refl _)
    | closer => exact ((List.tail_sublist _).reverse).trans before
    | _ => exact before

end LeftOpen

/-! ## Offsets of tokens -/

/-- The characters a token was read from. -/
def LocatedToken.source (located : LocatedToken) : Text := located.token.source

theorem Text.byteLength_pos {text : Text} (nonempty : text ≠ []) : 0 < text.byteLength := by
  obtain ⟨c, rest, rfl⟩ := List.exists_cons_of_ne_nil nonempty
  rw [byteLength_cons]
  exact Nat.add_pos_left c.utf8Size_pos _

section Offsets

variable {tokens : List Token} {located : LocatedToken} {before after : List LocatedToken} {position : Nat}

theorem flatMap_source_locate (position : Nat) (tokens : List Token) :
    (locate position tokens).flatMap LocatedToken.source = tokens.flatMap Token.source := by
  conv_rhs => rw [← map_token_locate position tokens, List.flatMap_map]
  rfl

/-- A token stands behind the characters of the tokens before it. -/
theorem start_of_locate (whole : locate position tokens = before ++ located :: after) :
    located.start = position + Text.byteLength (before.flatMap LocatedToken.source) := by
  induction before generalizing position tokens with
  | nil =>
    rcases tokens with _ | ⟨token, tokens⟩
    · cases whole
    · obtain ⟨rfl, -⟩ := List.cons.inj whole
      rfl
  | cons first before ih =>
    rcases tokens with _ | ⟨token, tokens⟩
    · cases whole
    · obtain ⟨rfl, further⟩ := List.cons.inj whole
      rw [ih further, List.flatMap_cons, Text.byteLength_append, ← Nat.add_assoc]
      rfl

/-- A token is read off the text that stands at its offset. -/
theorem scan_of_locatedTokens {text : Text} (whole : locatedTokens text = before ++ located :: after) :
    text.fromByte? located.start = some (located.source ++ after.flatMap LocatedToken.source) ∧
      scan (endsInCloser false (before.map LocatedToken.token)) (located.source ++ after.flatMap LocatedToken.source) =
        (located.token, after.flatMap LocatedToken.source) := by
  have characters : before.flatMap LocatedToken.source ++ (located :: after).flatMap LocatedToken.source = text := by
    rw [← List.flatMap_append, ← whole, locatedTokens, flatMap_source_locate, flatMap_source_scanAll]
  have tokens : scanAll false text =
      before.map LocatedToken.token ++ located.token :: after.map LocatedToken.token := by
    rw [← map_token_locate 0 (scanAll false text), ← locatedTokens, whole, List.map_append, List.map_cons]
  constructor
  · rw [start_of_locate whole, Nat.zero_add, ← List.flatMap_cons]
    conv_lhs => rw [← characters]
    exact Text.fromByte?_append _ _
  · have read := scan_of_scanAll tokens
    rwa [List.flatMap_cons, List.flatMap_map] at read

theorem le_start_of_mem_locate (member : located ∈ locate position tokens) : position ≤ located.start := by
  obtain ⟨before, after, whole⟩ := List.append_of_mem member
  rw [start_of_locate whole]
  exact Nat.le_add_right _ _

/-- Tokens do not overlap. -/
theorem pairwise_locate (position : Nat) (tokens : List Token) : (locate position tokens).Pairwise
    fun first second => first.start + first.source.byteLength ≤ second.start := by
  induction tokens generalizing position with
  | nil => exact .nil
  | cons token tokens ih => exact .cons (fun second member => le_start_of_mem_locate member) (ih _)

theorem pairwise_start_locate (afterClose : Bool) (text : Text) (position : Nat) :
    ((locate position (scanAll afterClose text)).map LocatedToken.start).Pairwise (· < ·) := by
  fun_induction scanAll afterClose text generalizing position with
  | case1 => exact List.pairwise_singleton _ _
  | case2 afterClose c rest ih =>
    rw [locate, List.map_cons]
    refine .cons ?_ (ih _)
    intro start behind
    obtain ⟨located, member, rfl⟩ := List.mem_map.mp behind
    have further := le_start_of_mem_locate member
    have characters := Text.byteLength_pos (scan_source_ne_nil afterClose c rest)
    dsimp only
    omega

/-- The end of the input is the last token of a text. -/
theorem eq_nil_of_endOfInput {text : Text}
    (whole : locatedTokens text = before ++ ⟨.endOfInput, position⟩ :: after) : after = [] := by
  obtain ⟨tokens, all, characters⟩ := scanAll_eq_append false text
  have same : tokens ++ [.endOfInput] =
      before.map LocatedToken.token ++ .endOfInput :: after.map LocatedToken.token := by
    rw [← all, ← map_token_locate 0 (scanAll false text), ← locatedTokens, whole, List.map_append, List.map_cons]
  rcases List.append_eq_append_iff.mp same with ⟨middle, -, last⟩ | ⟨middle, taken, last⟩
  · rcases middle with _ | ⟨token, middle⟩
    · exact List.map_eq_nil_iff.mp (List.cons.inj last).2.symm
    · exact absurd last (by simp)
  · rcases middle with _ | ⟨token, middle⟩
    · exact List.map_eq_nil_iff.mp (List.cons.inj last).2
    · -- another end of the input would stand among the tokens that have characters
      obtain ⟨rfl, -⟩ := List.cons.inj last
      exact absurd rfl (characters .endOfInput (taken ▸ List.mem_append_right _ (List.mem_cons_self ..)))

end Offsets

/-! ## What a reader keeps -/

/-- Where a reader stands that has consumed some tokens of a text. -/
structure Reader.Stands (reader : Reader) (text : Text) (consumed : List LocatedToken) : Prop where
  tokens : consumed ++ reader.upcoming = locatedTokens text
  /-- The open groups are those of the consumed openers that wait. -/
  mem_openGroups : ∀ position, position ∈ reader.openGroups ↔ Unclosed consumed position
  /-- From the outermost on, each one stands behind the one before it. -/
  increasing : reader.openGroups.reverse.Pairwise (· < ·)
  /-- The next token stands behind the characters consumed. -/
  current : ∃ token rest, reader.upcoming =
    ⟨token, Text.byteLength (consumed.flatMap LocatedToken.source)⟩ :: rest
  characters : consumed.flatMap LocatedToken.source ++ reader.upcoming.flatMap LocatedToken.source = text

/-- A reader that has consumed some tokens of a text, and keeps the groups that they leave open. -/
structure Reader.Records (reader : Reader) (text : Text) (consumed : List LocatedToken) : Prop where
  tokens : consumed ++ reader.upcoming = locatedTokens text
  inside : ∀ located ∈ consumed, located.token ≠ .endOfInput
  openGroups_eq : reader.openGroups = groupsLeftOpen consumed

namespace Reader.Records

variable {reader : Reader} {state : ReaderState} {located : LocatedToken} {text : Text}
  {consumed rest : List LocatedToken} {openGroups : List Nat}

theorem ofPattern (text : Text) : (Reader.ofPattern text).Records text [] := ⟨rfl, by simp, rfl⟩

theorem take (records : Reader.Records ⟨located :: rest, openGroups⟩ text consumed)
    (more : located.token ≠ .endOfInput) :
    Reader.Records ⟨rest, located.openGroups openGroups⟩ text (consumed ++ [located]) := by
  obtain ⟨tokens, inside, groups⟩ := records
  dsimp only at tokens groups
  refine ⟨by rw [← tokens, List.append_assoc]; rfl, ?_, by rw [groupsLeftOpen_concat, groups]⟩
  intro other member
  rcases List.mem_append.mp member with before | last
  · exact inside other before
  · obtain rfl := List.mem_singleton.mp last
    exact more

/-- A closing parenthesis has taken its group away before the quantifier behind it is looked at. -/
theorem closeGroup (records : Reader.Records ⟨rest, openGroups⟩ text consumed) (frame : Frame)
    (frames : List Frame) :
    ∃ later, (state.closeGroup openGroups frame frames rest).reader.Records text later := by
  rcases rest with _ | ⟨⟨token, position⟩, rest⟩
  · exact ⟨_, records⟩
  cases token with
  | quantifier raw =>
    rw [ReaderState.closeGroup_quantifier, ReaderState.reader_withBounds]
    exact ⟨_, records.take (by simp)⟩
  | _ => exact ⟨_, records⟩

/-- A step keeps the record, also if it ends the call. -/
theorem step (records : state.reader.Records text consumed) (readReference : ReferenceReader) :
    ∃ later, (state.step readReference).reader.Records text later := by
  obtain ⟨⟨upcoming, openGroups⟩, frames, parts, path⟩ := state
  dsimp only at records
  rcases upcoming with _ | ⟨⟨token, position⟩, rest⟩
  · cases openGroups <;> exact ⟨consumed, records⟩
  cases token with
  | endOfInput => cases openGroups <;> exact ⟨consumed, records⟩
  | closer =>
    rcases openGroups with _ | ⟨opened, openGroups⟩
    · exact ⟨consumed, records⟩
    rcases frames with _ | ⟨frame, frames⟩
    · -- the group has been opened by an earlier call
      exact ⟨consumed, records⟩
    · exact (records.take (by simp)).closeGroup frame frames
  | reference name =>
    have taken := records.take (by simp)
    rw [ReaderState.step_of_reference rfl, ReaderState.atReference]
    split <;> exact ⟨_, taken⟩
  | _ => exact ⟨_, records.take (by simp)⟩

theorem run (records : state.reader.Records text consumed) (readReference : ReferenceReader) :
    ∃ later, (state.run readReference).reader.Records text later := by
  fun_induction ReaderState.run readReference state generalizing consumed with
  | case1 state next more ih =>
    obtain ⟨later, kept⟩ := records.step readReference
    rw [more] at kept
    exact ih kept
  | case2 state outcome done =>
    obtain ⟨later, kept⟩ := records.step readReference
    rw [done] at kept
    exact ⟨later, kept⟩

theorem afterCalls (table : AliasTable) (pattern : Text) (path : AliasPath) (count : Nat) :
    ∃ consumed, (Reader.afterCalls table pattern path count).1.Records pattern consumed := by
  induction count with
  | zero => exact ⟨[], .ofPattern pattern⟩
  | succ count ih =>
    obtain ⟨consumed, records⟩ := ih
    have begins : (ReaderState.start (Reader.afterCalls table pattern path count).1
        (Reader.afterCalls table pattern path count).2).reader.Records pattern consumed := records
    simp only [Reader.afterCalls, Reader.read, Reader.readWithin_eq]
    exact begins.run _

theorem upcoming_ne_nil (records : reader.Records text consumed) : reader.upcoming ≠ [] := by
  intro ended
  obtain ⟨tokens, all, -⟩ := scanAll_eq_append false text
  have whole := congrArg (List.map LocatedToken.token) records.tokens
  rw [ended, List.append_nil, locatedTokens, map_token_locate, all] at whole
  have ends : .endOfInput ∈ consumed.map LocatedToken.token :=
    whole ▸ List.mem_append_right tokens (List.mem_singleton_self _)
  obtain ⟨located, member, last⟩ := List.mem_map.mp ends
  exact records.inside located member last

theorem stands (records : reader.Records text consumed) : reader.Stands text consumed := by
  obtain ⟨⟨token, position⟩, rest, upcoming⟩ := List.exists_cons_of_ne_nil records.upcoming_ne_nil
  have whole : locate 0 (scanAll false text) = consumed ++ ⟨token, position⟩ :: rest :=
    (upcoming ▸ records.tokens).symm
  have start := start_of_locate whole
  rw [Nat.zero_add] at start
  refine ⟨records.tokens, ?_, ?_, ⟨token, rest, by rw [upcoming, ← start]⟩, ?_⟩
  · intro position
    rw [records.openGroups_eq]
    exact mem_groupsLeftOpen
  · rw [records.openGroups_eq]
    have ordered := pairwise_start_locate false text 0
    rw [whole, List.map_append] at ordered
    exact (List.pairwise_append.mp ordered).1.sublist (sublist_groupsLeftOpen consumed)
  · rw [← List.flatMap_append, records.tokens, locatedTokens, flatMap_source_locate, flatMap_source_scanAll]

end Reader.Records

namespace Reader.Stands

variable {reader : Reader} {text : Text} {consumed rest : List LocatedToken} {position : Nat} {outer : List Nat}

theorem not_unclosed (stands : reader.Stands text consumed) (closed : reader.openGroups = []) (position : Nat) :
    ¬ Unclosed consumed position := by
  rw [← stands.mem_openGroups, closed]
  exact List.not_mem_nil

/-- The innermost group is the last one that waits. -/
theorem innermost (stands : reader.Stands text consumed) (inside : reader.openGroups = position :: outer) :
    Unclosed consumed position ∧ ∀ opened, Unclosed consumed opened → opened ≤ position := by
  simp only [← stands.mem_openGroups, inside]
  refine ⟨List.mem_cons_self .., fun opened member => ?_⟩
  have ordered := stands.increasing
  rw [inside, List.reverse_cons] at ordered
  rcases List.mem_cons.mp member with rfl | before
  · exact Nat.le_refl _
  · exact Nat.le_of_lt ((List.pairwise_append.mp ordered).2.2 opened (List.mem_reverse.mpr before) position
      (List.mem_singleton_self _))

/-- The end of the input stands behind the whole text. -/
theorem ends (stands : reader.Stands text consumed) (faces : reader.upcoming = ⟨.endOfInput, position⟩ :: rest) :
    reader.upcoming = [⟨.endOfInput, text.byteLength⟩] := by
  obtain rfl : rest = [] := eq_nil_of_endOfInput (faces ▸ stands.tokens).symm
  obtain ⟨token, rest, current⟩ := stands.current
  have characters := stands.characters
  rw [current] at faces
  obtain ⟨same, rfl⟩ := List.cons.inj faces
  obtain ⟨rfl, rfl⟩ := LocatedToken.mk.inj same
  rw [current] at characters ⊢
  rw [← characters]
  simp [LocatedToken.source, Token.source]

end Reader.Stands

/-! ## Refusals for groups -/

/-- Whether a refusal is about a group. -/
def Refusal.isAboutGroup : Refusal → Bool
  | .strayCloser _ | .unclosedGroup _ => true
  | _ => false

theorem Refusal.not_isAboutGroup {refusal : Refusal} (about : refusal.isAboutQuantifier = true) :
    refusal.isAboutGroup = false := by
  cases refusal with
  | badQuantifier position found => rfl
  | unclosedQuantifier position => rfl
  | _ => cases about

/-- What a reader has next where it is refused for its groups. -/
inductive Reader.Refuses (reader : Reader) : Refusal → Prop
  | strayCloser {position : Nat} {rest : List LocatedToken} (faces : reader.upcoming = ⟨.closer, position⟩ :: rest)
      (closed : reader.openGroups = []) : Refuses reader (.strayCloser position)
  | unclosedGroup {opened : Nat} {outer : List Nat}
      (ends : reader.upcoming = [] ∨ ∃ position rest, reader.upcoming = ⟨.endOfInput, position⟩ :: rest)
      (inside : reader.openGroups = opened :: outer) : Refuses reader (.unclosedGroup opened)

namespace ReaderState

variable {readReference : ReferenceReader} {state : ReaderState} {outcome : ReaderOutcome} {refusal : Refusal}

theorem atEnd_refused (ended : state.atEnd = .done outcome) (refused : outcome.answer = .error refusal)
    (ends : state.reader.upcoming = [] ∨
      ∃ position rest, state.reader.upcoming = ⟨.endOfInput, position⟩ :: rest) :
    state.reader.Refuses refusal := by
  unfold atEnd at ended
  split at ended
  · obtain rfl := ReaderStep.done.inj ended
    cases refused
  · rename_i opened outer inside
    obtain rfl := ReaderStep.done.inj ended
    obtain rfl := Except.error.inj refused
    exact .unclosedGroup ends inside

theorem closeGroup_refused {openGroups : List Nat} {frame : Frame} {frames : List Frame} {rest : List LocatedToken}
    (ended : state.closeGroup openGroups frame frames rest = .done outcome)
    (refused : outcome.answer = .error refusal) : refusal.isAboutQuantifier = true := by
  rcases rest with _ | ⟨⟨token, position⟩, rest⟩
  · cases ended
  cases token with
  | quantifier raw =>
    rw [closeGroup_quantifier] at ended
    cases stated : Repetition.ofQuantifier raw position with
    | error fault =>
      rw [stated] at ended
      obtain rfl := ReaderStep.done.inj ended
      obtain rfl := Except.error.inj refused
      exact Repetition.isAboutQuantifier_ofQuantifier stated
    | ok bounds =>
      rw [stated] at ended
      cases bounds <;> cases ended
  | _ => cases ended

/-- A step is refused for a group, for a quantifier or for the reference that stands next. -/
theorem step_refused (ended : state.step readReference = .done outcome) (refused : outcome.answer = .error refusal) :
    state.reader.Refuses refusal ∨ refusal.isAboutQuantifier = true ∨ ∃ name position rest,
      state.reader.upcoming = ⟨.reference name, position⟩ :: rest ∧
      (readReference name state.path).1 = .error refusal := by
  obtain ⟨⟨upcoming, openGroups⟩, frames, parts, path⟩ := state
  rcases upcoming with _ | ⟨⟨token, position⟩, rest⟩
  · exact .inl (atEnd_refused ended refused (.inl rfl))
  cases token with
  | endOfInput => exact .inl (atEnd_refused ended refused (.inr ⟨position, rest, rfl⟩))
  | closer =>
    rcases openGroups with _ | ⟨opened, openGroups⟩
    · obtain rfl := ReaderStep.done.inj ended
      obtain rfl := Except.error.inj refused
      exact .inl (.strayCloser rfl rfl)
    rcases frames with _ | ⟨frame, frames⟩
    · obtain rfl := ReaderStep.done.inj ended
      cases refused
    · have closed : closeGroup _ openGroups frame frames rest = .done outcome := ended
      exact .inr (.inl (closeGroup_refused closed refused))
  | reference name =>
    refine .inr (.inr ⟨name, position, rest, rfl, ?_⟩)
    rw [step_of_reference rfl, atReference] at ended
    split at ended
    · cases ended
    · rename_i found
      obtain rfl := ReaderStep.done.inj ended
      obtain rfl := Except.error.inj refused
      exact congrArg Prod.fst found
  | _ => cases ended

end ReaderState

namespace Call

variable {table : AliasTable} {first middle call : Call} {text : Text} {depth : Nat} {state : ReaderState}
  {refusal : Refusal}

theorem LeadsTo.trans (before : first.LeadsTo table middle) (after : middle.LeadsTo table call) :
    first.LeadsTo table call := by
  induction after with
  | here => exact before
  | step _ more ih => exact .step ih more
  | nested _ faces known enters ih => exact .nested ih faces known enters

/-- Every call has a last step, and it comes to what that step answers. -/
theorem leadsTo_last (table : AliasTable) (text : Text) (depth : Nat) (state : ReaderState) :
    ∃ last, LeadsTo table ⟨text, depth, state⟩ ⟨text, depth, last⟩ ∧
      Call.step table ⟨text, depth, last⟩ = .done (Call.outcome table ⟨text, depth, state⟩) := by
  unfold outcome
  dsimp only
  fun_induction ReaderState.run (Reader.referencesWithin table depth) state with
  | case1 state next more ih =>
    obtain ⟨last, leads, ended⟩ := ih
    exact ⟨last, .trans (.step .here more) leads, ended⟩
  | case2 state outcome done => exact ⟨state, .here, done⟩

/-- A call that is refused for a group leads to a state that is, in itself or in a call nested in it. -/
theorem leadsTo_refused (refused : (call.outcome table).answer = .error refusal)
    (about : refusal.isAboutGroup = true) :
    ∃ last, call.LeadsTo table last ∧ last.state.reader.Refuses refusal := by
  obtain ⟨text, depth, state⟩ := call
  induction depth using Nat.strongRecOn generalizing text state with
  | ind depth ih =>
    obtain ⟨last, leads, ended⟩ := leadsTo_last table text depth state
    rcases ReaderState.step_refused ended refused with group | quantifier | ⟨name, position, rest, faces, found⟩
    · exact ⟨_, leads, group⟩
    · rw [Refusal.not_isAboutGroup quantifier] at about
      cases about
    · have kept : Reader.referencesWithin table depth name last.path = (.error refusal, last.path) :=
        Prod.ext found (Reader.referencesWithin_keeps name last.path)
      obtain ⟨body, known, ⟨-, rfl⟩ | ⟨fresh, less, rfl, inner⟩⟩ := Reader.referencesWithin_eq_error kept
      · cases about
      · rw [Reader.readWithin_eq] at inner
        obtain ⟨deepest, further, group⟩ := ih less (Nat.lt_succ_self less) body (.start (.ofPattern body) _) inner
        have nested := leads.nested faces known (AliasPath.enter_eq_ok.mpr ⟨fresh, rfl⟩)
        exact ⟨deepest, nested.trans further, group⟩

theorem LeadsTo.records (leads : first.LeadsTo table call)
    (records : ∃ consumed, first.state.reader.Records first.text consumed) :
    ∃ consumed, call.state.reader.Records call.text consumed := by
  induction leads with
  | here => exact records
  | @step text depth state next _ more ih =>
    obtain ⟨consumed, records⟩ := ih
    obtain ⟨later, kept⟩ := records.step (Reader.referencesWithin table depth)
    rw [show state.step _ = .more next from more] at kept
    exact ⟨later, kept⟩
  | @nested _ _ body => exact ⟨[], .ofPattern body⟩

end Call

/-- However often a reader is called, and whatever the calls answer, it keeps exactly the openers that wait among
the tokens consumed, and so does every state that a call leads to. A call is refused for a closing parenthesis only
where no opener waits for one, and for an open group only at the end of the text, and then for the innermost one. -/
theorem open_groups_exact (table : AliasTable) (pattern : Text) (path : AliasPath) (count : Nat) :
    (∃ consumed, (Reader.afterCalls table pattern path count).1.Stands pattern consumed) ∧
    ∀ call, (Call.following table pattern path count).LeadsTo table call →
      (∃ consumed, call.state.reader.Stands call.text consumed) ∧
      (∀ position, (call.outcome table).answer = .error (.strayCloser position) →
        ∃ last consumed rest, call.LeadsTo table last ∧ last.state.reader.Stands last.text consumed ∧
          last.state.reader.upcoming = ⟨.closer, position⟩ :: rest ∧ ∀ opened, ¬ Unclosed consumed opened) ∧
      ∀ position, (call.outcome table).answer = .error (.unclosedGroup position) →
        ∃ last consumed, call.LeadsTo table last ∧ last.state.reader.Stands last.text consumed ∧
          last.state.reader.upcoming = [⟨.endOfInput, last.text.byteLength⟩] ∧ Unclosed consumed position ∧
          ∀ opened, Unclosed consumed opened → opened ≤ position := by
  obtain ⟨consumed, begins⟩ := Reader.Records.afterCalls table pattern path count
  refine ⟨⟨consumed, begins.stands⟩, fun call leads => ?_⟩
  have records := leads.records ⟨consumed, begins⟩
  refine ⟨records.imp fun _ kept => kept.stands, ?_, ?_⟩
  · intro position refused
    obtain ⟨last, further, group⟩ := Call.leadsTo_refused refused rfl
    obtain ⟨before, kept⟩ := further.records records
    obtain ⟨faces, closed⟩ := group
    exact ⟨last, before, _, further, kept.stands, faces, kept.stands.not_unclosed closed⟩
  · intro position refused
    obtain ⟨last, further, group⟩ := Call.leadsTo_refused refused rfl
    obtain ⟨before, kept⟩ := further.records records
    obtain ⟨_⟩ | ⟨ends, inside⟩ := group
    rcases ends with nothing | ⟨stop, rest, faces⟩
    · exact absurd nothing kept.upcoming_ne_nil
    · obtain ⟨waits, innermost⟩ := kept.stands.innermost inside
      exact ⟨last, before, further, kept.stands, kept.stands.ends faces, waits, innermost⟩

/-- A parenthesis too many in a body, two aliases deep in a group of the pattern, and a later call that goes on in
this group. -/
theorem open_groups_exact_later :
    ((Call.following strayBody "(@a(".toList .empty 0).outcome strayBody).answer = .error (.strayCloser 1) ∧
    (∃ last consumed rest, (Call.following strayBody "(@a(".toList .empty 0).LeadsTo strayBody last ∧
      last.state.reader.Stands last.text consumed ∧ last.state.reader.upcoming = ⟨.closer, 1⟩ :: rest ∧
      ∀ opened, ¬ Unclosed consumed opened) ∧
    (∃ consumed, (Reader.afterCalls strayBody "(@a(".toList .empty 1).1.Stands "(@a(".toList consumed) ∧
    ((Call.following strayBody "(@a(".toList .empty 1).outcome strayBody).answer = .error (.unclosedGroup 3) ∧
    ∃ last consumed, (Call.following strayBody "(@a(".toList .empty 1).LeadsTo strayBody last ∧
      last.state.reader.Stands last.text consumed ∧
      last.state.reader.upcoming = [⟨.endOfInput, last.text.byteLength⟩] ∧ Unclosed consumed 3 ∧
      ∀ opened, Unclosed consumed opened → opened ≤ 3 := by
  have stray : ((Call.following strayBody "(@a(".toList .empty 0).outcome strayBody).answer =
      .error (.strayCloser 1) := by
    with_unfolding_all rfl
  have unclosed : ((Call.following strayBody "(@a(".toList .empty 1).outcome strayBody).answer =
      .error (.unclosedGroup 3) := by
    with_unfolding_all rfl
  obtain ⟨-, firstCall⟩ := open_groups_exact strayBody "(@a(".toList .empty 0
  obtain ⟨between, secondCall⟩ := open_groups_exact strayBody "(@a(".toList .empty 1
  exact ⟨stray, (firstCall _ .here).2.1 1 stray, between, unclosed, (secondCall _ .here).2.2 3 unclosed⟩

end GroupUnroll
