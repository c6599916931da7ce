import GroupUnroll.Proofs.OpenGroups
import GroupUnroll.Proofs.OpenerRule

/-! # Quantifiers behind groups

Every quantifier among the tokens of a text stands directly behind a closing parenthesis. A step that consumes a
closing parenthesis consumes the quantifier behind it as well, and no other step consumes either. Hence no reader ever
has a quantifier next, however often it has been called, and the arm of `ReaderState.step` that would copy one is never
taken.

A step asks for the bounds that a quantifier states; `noteQuantifier` answers as a reader does and notes what was
asked for. The quantifiers noted are then the ones among the tokens consumed, each of them once and in order.
-/

namespace GroupUnroll

/-! ## Quantifiers among tokens -/

/-- Whether a token is a quantifier. -/
def Token.isQuantifier : Token → Bool
  | .quantifier _ => true
  | _ => false

/-- Whether a token with an offset is a quantifier. -/
def LocatedToken.isQuantifier (located : LocatedToken) : Bool := located.token.isQuantifier

/-- The quantifier that starts a text: text in braces through the first closing one, or to the end if there is none,
and otherwise a single character. -/
def leadingQuantifier (text : Text) : Text :=
  if text.head? = some '\x7b' then text.takeWhile (· ≠ '\x7d') ++ (text.dropWhile (· ≠ '\x7d')).take 1
  else text.take 1

/-- Every quantifier among the tokens has a closing parenthesis directly before it. -/
def QuantifiersFollow (tokens : List LocatedToken) : Prop :=
  ∀ before quantifier after, tokens = before ++ quantifier :: after → quantifier.isQuantifier = true →
    ∃ closed, before.getLast? = some ⟨.closer, closed⟩

section Tokens

variable {afterClose : Bool} {text next raw : Text} {token : Token} {tokens : List Token}

/-- A token is a quantifier exactly behind a closing parenthesis and at a character that starts one. -/
theorem scan_eq_quantifier_iff (read : scan afterClose text = (token, next)) :
    token = .quantifier raw ↔
      afterClose = true ∧ startsQuantifier text = true ∧ raw = leadingQuantifier text := by
  have spelled (starts : startsQuantifier text = true) :
      (scan true text).1 = .quantifier (leadingQuantifier text) := by
    rcases text with _ | ⟨c, rest⟩
    · cases starts
    · rcases startsQuantifier_cons.mp starts with rfl | rfl | rfl
      · rfl
      · rfl
      · exact congrArg Token.quantifier (Text.before_dropThrough _ _)
  constructor
  · rintro rfl
    obtain ⟨rfl, starts⟩ := startsQuantifier_of_scan read
    refine ⟨rfl, starts, ?_⟩
    rw [read] at spelled
    exact Token.quantifier.inj (spelled starts)
  · rintro ⟨rfl, starts, rfl⟩
    rw [read] at spelled
    exact spelled starts

theorem endsInCloser_eq_true_iff : endsInCloser false tokens = true ↔ tokens.getLast? = some .closer := by
  rw [endsInCloser]
  cases tokens.getLast? <;> simp

end Tokens

namespace QuantifiersFollow

variable {located : LocatedToken} {rest : List LocatedToken}

theorem locatedTokens (text : Text) : QuantifiersFollow (locatedTokens text) := by
  rintro before ⟨token, position⟩ after whole isQuantifier
  cases token with
  | quantifier raw =>
    obtain ⟨-, read⟩ := scan_of_locatedTokens whole
    have closed := endsInCloser_eq_true_iff.mp ((scan_eq_quantifier_iff read).mp rfl).1
    rw [List.getLast?_map] at closed
    obtain ⟨⟨_, start⟩, last, rfl⟩ := Option.map_eq_some_iff.mp closed
    exact ⟨start, last⟩
  | _ => cases isQuantifier

theorem head (follow : QuantifiersFollow (located :: rest)) : located.isQuantifier = false := by
  by_contra isQuantifier
  obtain ⟨closed, nothing⟩ := follow [] located rest rfl ((Bool.not_eq_false _).mp isQuantifier)
  cases nothing

/-- The tokens up to one can be taken away, unless this is a closing parenthesis with a quantifier behind it. -/
theorem drop (taken : List LocatedToken) (follow : QuantifiersFollow (taken ++ located :: rest))
    (apart : located.token = .closer → ∀ next ∈ rest.head?, next.isQuantifier = false) : QuantifiersFollow rest := by
  rintro before quantifier after rfl isQuantifier
  obtain ⟨closed, last⟩ := follow (taken ++ located :: before) quantifier after (by simp) isQuantifier
  rw [List.getLast?_append, List.getLast?_cons, Option.some_or] at last
  rcases before with _ | ⟨first, before⟩
  · obtain rfl := Option.some.inj last
    rw [apart rfl quantifier rfl] at isQuantifier
    cases isQuantifier
  · rw [List.getLast?_cons] at last ⊢
    exact ⟨closed, last⟩

theorem tail (follow : QuantifiersFollow (located :: rest))
    (apart : located.token = .closer → ∀ next ∈ rest.head?, next.isQuantifier = false) : QuantifiersFollow rest :=
  drop [] follow apart

end QuantifiersFollow

/-! ## Noting what a step asks -/

namespace ReaderState

/-- Read a quantifier, and note it. -/
def noteQuantifier (raw : Text) (position : Nat) :
    StateM (List LocatedToken) (Except Refusal (Option Repetition)) := do
  modify (· ++ [⟨.quantifier raw, position⟩])
  return Repetition.ofQuantifier raw position

/-- What a step does, and the quantifiers noted so far with those that it asks about. -/
def stepNoting (readReference : ReferenceReader) (state : ReaderState) (noted : List LocatedToken) :
    ReaderStep × List LocatedToken :=
  (state.stepBy noteQuantifier readReference).run noted

variable {readReference : ReferenceReader} {state : ReaderState} {located : LocatedToken}
  {noted rest taken : List LocatedToken}

theorem fst_stepNoting : (state.stepNoting readReference noted).1 = state.step readReference := by
  obtain ⟨⟨upcoming, openGroups⟩, frames, parts, path⟩ := state
  rcases upcoming with _ | ⟨⟨token, position⟩, rest⟩
  · rfl
  cases token with
  | closer =>
    rcases openGroups with _ | ⟨opened, openGroups⟩
    · rfl
    rcases frames with _ | ⟨frame, frames⟩
    · rfl
    rcases rest with _ | ⟨⟨token, position⟩, rest⟩
    · rfl
    cases token <;> rfl
  | _ => rfl

/-- Step until the call ends, noting the quantifiers that the steps ask about. -/
def runNoting (readReference : ReferenceReader) (state : ReaderState) (noted : List LocatedToken) :
    ReaderOutcome × List LocatedToken :=
  match _ : state.stepNoting readReference noted with
  | (.more next, noted) => next.runNoting readReference noted
  | (.done outcome, noted) => (outcome, noted)
termination_by state.reader.upcoming.length
decreasing_by
  rename_i went
  exact step_length_lt (fst_stepNoting.symm.trans (congrArg Prod.fst went))

theorem runNoting_of_more {next : ReaderState} {later : List LocatedToken}
    (more : state.stepNoting readReference noted = (.more next, later)) :
    state.runNoting readReference noted = next.runNoting readReference later := by
  rw [runNoting]
  split <;> simp_all

theorem runNoting_of_done {outcome : ReaderOutcome} {later : List LocatedToken}
    (done : state.stepNoting readReference noted = (.done outcome, later)) :
    state.runNoting readReference noted = (outcome, later) := by
  rw [runNoting]
  split <;> simp_all

/-- The tokens that a step takes, and what it does with the quantifiers among them. -/
structure Takes (readReference : ReferenceReader) (state : ReaderState) (taken : List LocatedToken) : Prop where
  upcoming_eq : state.reader.upcoming = taken ++ (state.step readReference).reader.upcoming
  /-- The step asks about each quantifier that it takes, and about nothing else. -/
  stepNoting_eq : ∀ noted, state.stepNoting readReference noted =
    (state.step readReference, noted ++ taken.filter LocatedToken.isQuantifier)
  /-- A quantifier is taken with the closing parenthesis before it. -/
  behind : ∀ quantifier ∈ taken, quantifier.isQuantifier = true → ∃ closed, taken = [⟨.closer, closed⟩, quantifier]

theorem takes_of_quiet (upcoming_eq : state.reader.upcoming = taken ++ (state.step readReference).reader.upcoming)
    (none : taken.filter LocatedToken.isQuantifier = [])
    (quiet : ∀ noted, (state.stepNoting readReference noted).2 = noted) : state.Takes readReference taken := by
  refine ⟨upcoming_eq, fun noted => ?_, fun quantifier member isQuantifier => ?_⟩
  · rw [none, List.append_nil]
    exact Prod.ext fst_stepNoting (quiet noted)
  · exact absurd isQuantifier (List.filter_eq_nil_iff.mp none quantifier member)

/-- A step takes a closing parenthesis and the quantifier behind it together, and no other quantifier. -/
theorem exists_takes (follow : QuantifiersFollow state.reader.upcoming) (readReference : ReferenceReader) :
    ∃ taken, state.Takes readReference taken ∧ QuantifiersFollow (state.step readReference).reader.upcoming := by
  obtain ⟨⟨upcoming, openGroups⟩, frames, parts, path⟩ := state
  dsimp only at follow
  rcases upcoming with _ | ⟨⟨token, position⟩, rest⟩
  · cases openGroups <;> exact ⟨[], takes_of_quiet rfl rfl fun _ => rfl, follow⟩
  cases token with
  | quantifier raw => cases follow.head
  | endOfInput => cases openGroups <;> exact ⟨[], takes_of_quiet rfl rfl fun _ => rfl, follow⟩
  | closer =>
    rcases openGroups with _ | ⟨opened, openGroups⟩
    · exact ⟨[], takes_of_quiet rfl rfl fun _ => rfl, follow⟩
    rcases frames with _ | ⟨frame, frames⟩
    · -- the group has been opened by an earlier call
      exact ⟨[], takes_of_quiet rfl rfl fun _ => rfl, follow⟩
    rcases rest with _ | ⟨⟨token, next⟩, rest⟩
    · exact ⟨[⟨.closer, position⟩], takes_of_quiet rfl rfl fun _ => rfl, follow.tail (by simp)⟩
    cases token with
    | quantifier raw =>
      have stepped : (step readReference ⟨⟨⟨.closer, position⟩ :: ⟨.quantifier raw, next⟩ :: rest,
          opened :: openGroups⟩, frame :: frames, parts, path⟩).reader = ⟨rest, openGroups⟩ :=
        reader_withBounds (Repetition.ofQuantifier raw next)
      refine ⟨[⟨.closer, position⟩, ⟨.quantifier raw, next⟩], ⟨by rw [stepped]; rfl, fun noted => rfl, ?_⟩, ?_⟩
      · intro quantifier member isQuantifier
        simp only [List.mem_cons, List.not_mem_nil, or_false] at member
        rcases member with rfl | rfl
        · cases isQuantifier
        · exact ⟨position, rfl⟩
      · rw [stepped]
        exact follow.drop [_] (by simp)
    | _ =>
      exact ⟨[⟨.closer, position⟩], takes_of_quiet rfl rfl fun _ => rfl, follow.tail (by rintro - other ⟨⟩; rfl)⟩
  | reference name =>
    have stepped : (step readReference ⟨⟨⟨.reference name, position⟩ :: rest, openGroups⟩, frames, parts,
        path⟩).reader.upcoming = rest := by
      rw [step_of_reference rfl, atReference]
      split <;> rfl
    refine ⟨[⟨.reference name, position⟩], takes_of_quiet (by rw [stepped]; rfl) rfl fun _ => rfl, ?_⟩
    rw [stepped]
    exact follow.tail (by simp)
  | _ => exact ⟨[_], takes_of_quiet rfl rfl fun _ => rfl, follow.tail (by simp)⟩

/-- What a call takes begins with what it has next, and the call asks about each quantifier among it once, in order. -/
theorem exists_runNoting (follow : QuantifiersFollow state.reader.upcoming) (readReference : ReferenceReader) :
    ∃ taken, state.reader.upcoming = taken ++ (state.run readReference).reader.upcoming ∧
      (∀ noted, state.runNoting readReference noted =
        (state.run readReference, noted ++ taken.filter LocatedToken.isQuantifier)) ∧
      QuantifiersFollow (state.run readReference).reader.upcoming := by
  fun_induction run readReference state with
  | case1 state next more ih =>
    obtain ⟨first, takes, kept⟩ := exists_takes follow readReference
    obtain ⟨upcoming, noting, -⟩ := takes
    rw [more] at upcoming noting kept
    obtain ⟨later, behind, runs, ends⟩ := ih kept
    refine ⟨first ++ later, ?_, fun noted => ?_, ends⟩
    · rw [List.append_assoc, ← behind]
      exact upcoming
    · rw [runNoting_of_more (noting noted), runs, List.filter_append, List.append_assoc]
  | case2 state outcome done =>
    obtain ⟨taken, takes, kept⟩ := exists_takes follow readReference
    obtain ⟨upcoming, noting, -⟩ := takes
    rw [done] at upcoming noting kept
    exact ⟨taken, upcoming, fun noted => runNoting_of_done (noting noted), kept⟩

end ReaderState

/-! ## Calls -/

namespace Call

/-- What the next step of a call does, and the quantifiers noted so far with those that it asks about. -/
def stepNoting (table : AliasTable) (call : Call) (noted : List LocatedToken) : ReaderStep × List LocatedToken :=
  call.state.stepNoting (Reader.referencesWithin table call.depth) noted

/-- What a call comes to, and the quantifiers noted so far with those that it asks about. -/
def outcomeNoting (table : AliasTable) (call : Call) (noted : List LocatedToken) :
    ReaderOutcome × List LocatedToken :=
  call.state.runNoting (Reader.referencesWithin table call.depth) noted

/-- The quantifiers that `count` calls in a row ask about. -/
def noted (table : AliasTable) (pattern : Text) (path : AliasPath) : (count : Nat) → List LocatedToken
  | 0 => []
  | count + 1 => ((following table pattern path count).outcomeNoting table (noted table pattern path count)).2

/-- What holds of quantifiers in every state that a call leads to. -/
structure PassesQuantifiers (table : AliasTable) (call : Call) : Prop where
  /-- None stands next. -/
  current : ∀ raw position rest, call.state.reader.upcoming ≠ ⟨.quantifier raw, position⟩ :: rest
  /-- A step asks about each one that it takes, and takes the closing parenthesis before it as well. -/
  step : ∃ taken, call.state.reader.upcoming = taken ++ (call.step table).reader.upcoming ∧
    (∀ noted, call.stepNoting table noted =
      (call.step table, noted ++ taken.filter LocatedToken.isQuantifier)) ∧
    ∀ quantifier ∈ taken, quantifier.isQuantifier = true → ∃ closed, taken = [⟨.closer, closed⟩, quantifier]
  /-- A call asks about each one that it takes. -/
  outcome : ∃ taken, call.state.reader.upcoming = taken ++ (call.outcome table).reader.upcoming ∧
    ∀ noted, call.outcomeNoting table noted =
      (call.outcome table, noted ++ taken.filter LocatedToken.isQuantifier)

variable {table : AliasTable} {first call : Call}

theorem passesQuantifiers (follow : QuantifiersFollow call.state.reader.upcoming) :
    call.PassesQuantifiers table := by
  refine ⟨?_, ?_, ?_⟩
  · intro raw position rest faces
    cases (faces ▸ follow).head
  · obtain ⟨taken, takes, -⟩ := ReaderState.exists_takes follow (Reader.referencesWithin table call.depth)
    exact ⟨taken, takes.upcoming_eq, takes.stepNoting_eq, takes.behind⟩
  · obtain ⟨taken, upcoming, runs, -⟩ :=
      ReaderState.exists_runNoting follow (Reader.referencesWithin table call.depth)
    exact ⟨taken, upcoming, runs⟩

theorem LeadsTo.quantifiersFollow (leads : first.LeadsTo table call)
    (follow : QuantifiersFollow first.state.reader.upcoming) : QuantifiersFollow call.state.reader.upcoming := by
  induction leads with
  | here => exact follow
  | @step text depth state next _ more ih =>
    obtain ⟨taken, -, kept⟩ := ReaderState.exists_takes ih (Reader.referencesWithin table depth)
    rwa [show state.step _ = .more next from more] at kept
  | @nested _ _ body => exact .locatedTokens body

/-- What has been consumed after some calls in a row, and what has been asked about. -/
theorem exists_noted (table : AliasTable) (pattern : Text) (path : AliasPath) (count : Nat) :
    ∃ consumed, locatedTokens pattern =
        consumed ++ (Reader.afterCalls table pattern path count).1.upcoming ∧
      noted table pattern path count = consumed.filter LocatedToken.isQuantifier ∧
      QuantifiersFollow (Reader.afterCalls table pattern path count).1.upcoming := by
  induction count with
  | zero => exact ⟨[], rfl, rfl, .locatedTokens pattern⟩
  | succ count ih =>
    obtain ⟨consumed, whole, asked, follow⟩ := ih
    have begins : QuantifiersFollow (following table pattern path count).state.reader.upcoming := follow
    obtain ⟨taken, upcoming, runs, kept⟩ :=
      ReaderState.exists_runNoting begins (Reader.referencesWithin table table.size)
    have leaves : (Reader.afterCalls table pattern path (count + 1)).1 =
        ((following table pattern path count).outcome table).reader := by
      rw [outcome_following]
      rfl
    rw [leaves]
    refine ⟨consumed ++ taken, ?_, ?_, kept⟩
    · rw [whole, List.append_assoc]
      exact congrArg (consumed ++ ·) upcoming
    · rw [List.filter_append, ← asked]
      exact congrArg Prod.snd (runs _)

end Call

theorem nodup_locatedTokens (text : Text) : (locatedTokens text).Nodup := by
  refine (pairwise_start_locate false text 0).of_map LocatedToken.start fun first second before same => ?_
  exact Nat.ne_of_lt before (congrArg LocatedToken.start same)

/-- In the tokens of a text, a quantifier stands exactly where the token before is a closing parenthesis and what is
left of the text starts with a star, a plus sign or an opening brace. However often a reader is called, and in every
state that a call leads to, a quantifier is never next. Each one that is consumed has its bounds read once, directly
behind the closing parenthesis before it. -/
theorem quantifiers_follow_groups (table : AliasTable) (pattern : Text) (path : AliasPath) (count : Nat) :
    (∀ before token after, (Cursor.start pattern).tokens = before ++ token :: after →
      ∃ rest, before.flatMap Token.source ++ rest = pattern ∧ ∀ raw, token = .quantifier raw ↔
        before.getLast? = some .closer ∧ startsQuantifier rest = true ∧ raw = leadingQuantifier rest) ∧
    (∃ consumed, locatedTokens pattern = consumed ++ (Reader.afterCalls table pattern path count).1.upcoming ∧
      Call.noted table pattern path count = consumed.filter LocatedToken.isQuantifier ∧
      (Call.noted table pattern path count).Nodup) ∧
    ∀ call, (Call.following table pattern path count).LeadsTo table call → call.PassesQuantifiers table := by
  obtain ⟨consumed, whole, asked, follow⟩ := Call.exists_noted table pattern path count
  refine ⟨fun before token after tokens => ?_, ⟨consumed, whole, asked, ?_⟩, fun call leads => ?_⟩
  · have all : scanAll false pattern = before ++ token :: after := tokens
    refine ⟨(token :: after).flatMap Token.source, ?_, fun raw => ?_⟩
    · rw [← List.flatMap_append, ← all, flatMap_source_scanAll]
    · rw [scan_eq_quantifier_iff (scan_of_scanAll all), endsInCloser_eq_true_iff]
  · have each := nodup_locatedTokens pattern
    rw [whole] at each
    rw [asked]
    exact (List.nodup_append.mp each).1.filter _
  · exact Call.passesQuantifiers (leads.quantifiersFollow follow)

/-- A call is refused for the first quantifier, and the next one goes on behind it and reads the second. -/
theorem quantifiers_follow_groups_resumed :
    ((Call.following chain "(a)\x7bx\x7d(b)*".toList .empty 0).outcome chain).answer = .error (.badQuantifier 4 'x') ∧
    ((Call.following chain "(a)\x7bx\x7d(b)*".toList .empty 1).outcome chain).answer =
      .ok [.group .capturing ['('] [.plain ['b']] (some ⟨0, .unbounded⟩)] ∧
    (Cursor.start "(a)\x7bx\x7d(b)*".toList).tokens =
      [.opener .capturing ['('], .plain ['a'], .closer] ++ .quantifier "\x7bx\x7d".toList ::
        [.opener .capturing ['('], .plain ['b'], .closer, .quantifier ['*'], .endOfInput] ∧
    (∃ rest, "(a)".toList ++ rest = "(a)\x7bx\x7d(b)*".toList ∧
      "\x7bx\x7d".toList = leadingQuantifier rest) ∧
    Call.noted chain "(a)\x7bx\x7d(b)*".toList .empty 2 =
      [⟨.quantifier "\x7bx\x7d".toList, 3⟩, ⟨.quantifier ['*'], 9⟩] ∧
    (Call.following chain "(a)\x7bx\x7d(b)*".toList .empty 1).PassesQuantifiers chain := by
  have tokens : (Cursor.start "(a)\x7bx\x7d(b)*".toList).tokens =
      [.opener .capturing ['('], .plain ['a'], .closer] ++ .quantifier "\x7bx\x7d".toList ::
        [.opener .capturing ['('], .plain ['b'], .closer, .quantifier ['*'], .endOfInput] := by
    with_unfolding_all rfl
  have noted : Call.noted chain "(a)\x7bx\x7d(b)*".toList .empty 2 =
      [⟨.quantifier "\x7bx\x7d".toList, 3⟩, ⟨.quantifier ['*'], 9⟩] := by
    with_unfolding_all rfl
  obtain ⟨stands, -, passes⟩ := quantifiers_follow_groups chain "(a)\x7bx\x7d(b)*".toList .empty 1
  obtain ⟨rest, whole, quantifier⟩ := stands _ _ _ tokens
  refine ⟨?_, ?_, tokens, ⟨rest, whole, ((quantifier _).mp rfl).2.2⟩, noted, passes _ .here⟩
  all_goals with_unfolding_all rfl

end GroupUnroll
