import GroupUnroll.Proofs.Resolution

/-! # Calls in a row and calls within calls

A reader may be called any number of times, and every call may make further ones for the bodies of aliases. They
all work on one path of aliases: a nested call is handed the path with its alias entered, and leaves it again
before anything is made of its answer. `Call.LeadsTo` follows a call through its steps and into the calls nested
in it, so what it relates are all the states that come up, with the path as it is at that moment.

The path of each state is the path of the outermost call with aliases of the table behind it, none of them twice.
There is always depth left for the others, so a nested call is only refused where entering its alias is.
-/

namespace GroupUnroll

/-! ## Paths -/

namespace AliasPath

/-- The paths that entering and leaving lead to. -/
inductive Reached : AliasPath → Prop
  | empty : Reached .empty
  | enter {path entered : AliasPath} {name : Text} (reached : Reached path)
      (enters : path.enter name = .ok entered) : Reached entered
  | leave {path : AliasPath} (reached : Reached path) : Reached path.leave

variable {path entered : AliasPath} {name : Text} {refusal : Refusal}

theorem enter_eq_ok : path.enter name = .ok entered ↔
    name ∉ path.names ∧ entered = ⟨path.names ++ [name]⟩ := by
  unfold enter
  split
  · rename_i again
    simp [again]
  · rename_i fresh
    simp only [Except.ok.injEq, fresh, not_false_eq_true, true_and]
    exact eq_comm

/-- Only an alias that is being read is refused, and the refusal names the whole path. -/
theorem enter_eq_error : path.enter name = .error refusal ↔
    name ∈ path.names ∧ refusal = .circularReference name path.names := by
  unfold enter
  split
  · rename_i again
    simp only [Except.error.injEq, again, true_and]
    exact eq_comm
  · rename_i fresh
    simp [fresh]

theorem Reached.nodup (reached : path.Reached) : path.names.Nodup := by
  induction reached with
  | empty => exact List.nodup_nil
  | enter _ enters ih =>
    obtain ⟨fresh, rfl⟩ := enter_eq_ok.mp enters
    exact List.nodup_append.mpr ⟨ih, by simp, fun first member second last same =>
      fresh (List.mem_singleton.mp last ▸ same ▸ member)⟩
  | leave _ ih => exact ih.sublist (List.dropLast_sublist _)

end AliasPath

/-! ## Calls -/

/-- The reader and the path that `count` calls in a row leave behind. -/
def Reader.afterCalls (table : AliasTable) (pattern : Text) (path : AliasPath) :
    (count : Nat) → Reader × AliasPath
  | 0 => (.ofPattern pattern, path)
  | count + 1 =>
    let (reader, path) := afterCalls table pattern path count
    ((reader.read table path).reader, (reader.read table path).path)

/-- A call being made: the text that it reads, how deep references may nest in it, and its state. -/
structure Call where
  text : Text
  depth : Nat
  state : ReaderState

namespace Call

/-- What the next step of a call does. -/
def step (table : AliasTable) (call : Call) : ReaderStep :=
  call.state.step (Reader.referencesWithin table call.depth)

/-- What a call comes to. -/
def outcome (table : AliasTable) (call : Call) : ReaderOutcome :=
  call.state.run (Reader.referencesWithin table call.depth)

/-- The call on a pattern that follows `count` others. -/
def following (table : AliasTable) (pattern : Text) (path : AliasPath) (count : Nat) : Call :=
  ⟨pattern, table.size, .start (Reader.afterCalls table pattern path count).1
    (Reader.afterCalls table pattern path count).2⟩

/-- The call for the body of an alias. -/
def ofBody (body : Text) (depth : Nat) (entered : AliasPath) : Call :=
  ⟨body, depth, .start (.ofPattern body) entered⟩

/-- The states that a call leads to, in itself and in the calls that it makes for the bodies of aliases. -/
inductive LeadsTo (table : AliasTable) (first : Call) : Call → Prop
  | here : LeadsTo table first first
  | step {text : Text} {depth : Nat} {state next : ReaderState} (leads : LeadsTo table first ⟨text, depth, state⟩)
      (more : Call.step table ⟨text, depth, state⟩ = .more next) : LeadsTo table first ⟨text, depth, next⟩
  | nested {text name body : Text} {depth position : Nat} {state : ReaderState} {rest : List LocatedToken}
      {entered : AliasPath} (leads : LeadsTo table first ⟨text, depth + 1, state⟩)
      (faces : state.reader.upcoming = ⟨.reference name, position⟩ :: rest)
      (known : table.replacement? name = some body) (enters : state.path.enter name = .ok entered) :
      LeadsTo table first (ofBody body depth entered)

variable {table : AliasTable} {first call : Call} {pattern text name body : Text} {path entered : AliasPath}
  {count depth position : Nat} {state : ReaderState} {rest : List LocatedToken}

theorem outcome_following : (following table pattern path count).outcome table =
    Reader.read table (Reader.afterCalls table pattern path count).1
      (Reader.afterCalls table pattern path count).2 :=
  Reader.readWithin_eq.symm

theorem path_step (table : AliasTable) (call : Call) : (call.step table).path = call.state.path :=
  ReaderState.path_step Reader.referencesWithin_keeps call.state

theorem path_outcome (table : AliasTable) (call : Call) : (call.outcome table).path = call.state.path :=
  ReaderState.path_run Reader.referencesWithin_keeps call.state

theorem path_afterCalls (table : AliasTable) (pattern : Text) (path : AliasPath) (count : Nat) :
    (Reader.afterCalls table pattern path count).2 = path := by
  induction count with
  | zero => rfl
  | succ count ih => exact Reader.path_readWithin.trans ih

theorem path_of_more {next : ReaderState} (more : Call.step table ⟨text, depth, state⟩ = .more next) :
    next.path = state.path := by
  have kept := path_step table ⟨text, depth, state⟩
  rwa [more] at kept

/-- A step that comes to an alias on the path is refused, and takes nothing but the reference. -/
theorem step_again (faces : state.reader.upcoming = ⟨.reference name, position⟩ :: rest)
    (known : table.replacement? name = some body) (again : name ∈ state.path.names) :
    Call.step table ⟨text, depth, state⟩ = .done ⟨.error (.circularReference name state.path.names),
      ⟨rest, state.reader.openGroups⟩, state.path⟩ := by
  rw [Call.step, ReaderState.step_of_reference faces, ReaderState.atReference,
    Reader.referencesWithin_again known again]

namespace LeadsTo

/-- A call and the calls nested in it stay on paths that entering and leaving lead to. -/
theorem reached (leads : LeadsTo table first call) (reached : first.state.path.Reached) :
    call.state.path.Reached := by
  induction leads with
  | here => exact reached
  | step _ more ih => exact (path_of_more more).symm ▸ ih
  | nested _ _ _ enters ih => exact .enter ih enters

/-- The path of a call extends the one of the outermost call by aliases of the table, none of them twice, and the
depth is the number of aliases left. -/
theorem extends_path (leads : LeadsTo table first call) (outermost : first.depth = table.size) :
    ∃ names, call.state.path.names = first.state.path.names ++ names ∧ AliasPath.Within ⟨names⟩ table ∧
      names.length + call.depth = table.size := by
  induction leads with
  | here => exact ⟨[], (List.append_nil _).symm, AliasPath.within_empty table, by simp [outermost]⟩
  | step _ more ih =>
    dsimp only
    rwa [path_of_more more]
  | @nested _ name _ _ _ _ _ _ _ _ known enters ih =>
    obtain ⟨names, path, within, left⟩ := ih
    obtain ⟨fresh, rfl⟩ := AliasPath.enter_eq_ok.mp enters
    dsimp only at path left fresh
    have later : name ∉ names := fun member => fresh (path ▸ List.mem_append_right _ member)
    refine ⟨names ++ [name], ?_, within.enter (AliasTable.get?_of_replacement? known) later, ?_⟩
    · simp [ofBody, ReaderState.start, path]
    · rw [List.length_append, List.length_singleton]
      dsimp only [ofBody] at left ⊢
      omega

/-- Where an alias can be entered there is depth left for its body. -/
theorem nested_of_enter (leads : LeadsTo table first ⟨text, depth, state⟩) (outermost : first.depth = table.size)
    (faces : state.reader.upcoming = ⟨.reference name, position⟩ :: rest)
    (known : table.replacement? name = some body) (enters : state.path.enter name = .ok entered) :
    ∃ less, depth = less + 1 ∧ LeadsTo table first (ofBody body less entered) := by
  cases depth with
  | succ less => exact ⟨less, rfl, leads.nested faces known enters⟩
  | zero =>
    obtain ⟨names, path, within, left⟩ := leads.extends_path outermost
    have full : table.size ≤ AliasPath.length ⟨names⟩ := Nat.le_of_eq left.symm
    have again := within.not_fresh full (AliasTable.get?_of_replacement? known)
    have fresh := (AliasPath.enter_eq_ok.mp enters).1
    exact absurd (path ▸ List.mem_append_right _ again) fresh

end LeadsTo

end Call

/-- What holds of the path of aliases in every state that a call leads to. -/
structure Call.KeepsPath (table : AliasTable) (first call : Call) : Prop where
  reached : call.state.path.Reached
  /-- No alias is being read twice. -/
  nodup : call.state.path.names.Nodup
  /-- A step leaves the path as it found it, also where it reads the body of an alias or is refused. -/
  step : (call.step table).path = call.state.path
  outcome : (call.outcome table).path = call.state.path
  /-- An alias that is refused is on the path, and the refusal names the whole path in order. -/
  refuses : ∀ name refusal, call.state.path.enter name = .error refusal →
    name ∈ call.state.path.names ∧ refusal = .circularReference name call.state.path.names
  /-- A reference to such an alias ends the call, and only the reference has been consumed. -/
  again : ∀ name body position rest refusal,
    call.state.reader.upcoming = ⟨.reference name, position⟩ :: rest → table.replacement? name = some body →
    call.state.path.enter name = .error refusal →
      call.step table = .done ⟨.error refusal, ⟨rest, call.state.reader.openGroups⟩, call.state.path⟩
  /-- Every other alias is entered for a call that is led to as well, and left after it. -/
  enters : ∀ name body position rest entered,
    call.state.reader.upcoming = ⟨.reference name, position⟩ :: rest → table.replacement? name = some body →
    call.state.path.enter name = .ok entered →
      ∃ less, call.depth = less + 1 ∧ first.LeadsTo table (.ofBody body less entered) ∧
        ((Call.ofBody body less entered).outcome table).path.leave = call.state.path

/-- Calls leave the path of aliases as they found it, whatever they answer and however often a reader is called,
and in every state that they lead to, those of the calls for bodies included, the path is in order. -/
theorem calls_restore_path {path : AliasPath} (reached : path.Reached) (table : AliasTable) (pattern : Text)
    (count : Nat) :
    (Reader.afterCalls table pattern path count).2 = path ∧
    ∀ call, (Call.following table pattern path count).LeadsTo table call →
      (Call.following table pattern path count).KeepsPath table call := by
  have kept := Call.path_afterCalls table pattern path count
  refine ⟨kept, fun call leads => ?_⟩
  have begins : (Call.following table pattern path count).state.path = path := kept
  have reaches : call.state.path.Reached := leads.reached (begins.symm ▸ reached)
  refine ⟨reaches, reaches.nodup, call.path_step table, call.path_outcome table, ?_, ?_, ?_⟩
  · intro name refusal refused
    exact AliasPath.enter_eq_error.mp refused
  · intro name body position rest refusal faces known refused
    obtain ⟨again, rfl⟩ := AliasPath.enter_eq_error.mp refused
    exact Call.step_again faces known again
  · intro name body position rest entered faces known enters
    obtain ⟨less, deep, nested⟩ := leads.nested_of_enter rfl faces known enters
    refine ⟨less, deep, nested, ?_⟩
    rw [Call.path_outcome]
    exact AliasPath.leave_of_enter enters

/-- A state in a group, directly before a reference. -/
def beforeReference (path : AliasPath) (opened : Nat) (rest : List LocatedToken) : ReaderState :=
  ⟨⟨⟨.reference ['b'], opened + 1⟩ :: rest, [opened]⟩, [⟨.capturing, ['('], []⟩], [], path⟩

/-- A second call on a path that is not empty comes to a cycle two bodies deep, in a group. -/
theorem calls_restore_path_ring :
    AliasPath.Reached ⟨[['q']]⟩ ∧
    (Reader.afterCalls ring "@a(@b)".toList ⟨[['q']]⟩ 2).2 = ⟨[['q']]⟩ ∧
    ∃ call, (Call.following ring "@a(@b)".toList ⟨[['q']]⟩ 1).LeadsTo ring call ∧
      call.state.path = ⟨[['q'], ['b'], ['a']]⟩ ∧
      (Call.following ring "@a(@b)".toList ⟨[['q']]⟩ 1).KeepsPath ring call ∧
      call.step ring = .done ⟨.error (.circularReference ['b'] [['q'], ['b'], ['a']]),
        ⟨[⟨.closer, 3⟩, ⟨.endOfInput, 4⟩], [0]⟩, ⟨[['q'], ['b'], ['a']]⟩⟩ := by
  have reached : AliasPath.Reached ⟨[['q']]⟩ := .enter .empty rfl
  obtain ⟨kept, -⟩ := calls_restore_path reached ring "@a(@b)".toList 2
  obtain ⟨-, keeps⟩ := calls_restore_path reached ring "@a(@b)".toList 1
  have outer : (Call.following ring "@a(@b)".toList ⟨[['q']]⟩ 1).LeadsTo ring
      ⟨"@a(@b)".toList, 2, beforeReference ⟨[['q']]⟩ 2 [⟨.closer, 5⟩, ⟨.endOfInput, 6⟩]⟩ :=
    .step .here (by with_unfolding_all rfl)
  have middle : (Call.following ring "@a(@b)".toList ⟨[['q']]⟩ 1).LeadsTo ring
      (.ofBody "@a".toList 1 ⟨[['q'], ['b']]⟩) :=
    outer.nested rfl rfl rfl
  have faces : (ReaderState.start (.ofPattern "@a".toList) ⟨[['q'], ['b']]⟩).reader.upcoming =
      [⟨.reference ['a'], 0⟩, ⟨.endOfInput, 2⟩] := by
    with_unfolding_all rfl
  have inner : (Call.following ring "@a(@b)".toList ⟨[['q']]⟩ 1).LeadsTo ring
      (.ofBody "(@b)".toList 0 ⟨[['q'], ['b'], ['a']]⟩) :=
    middle.nested faces rfl rfl
  have last : (Call.following ring "@a(@b)".toList ⟨[['q']]⟩ 1).LeadsTo ring
      ⟨"(@b)".toList, 0, beforeReference ⟨[['q'], ['b'], ['a']]⟩ 0 [⟨.closer, 3⟩, ⟨.endOfInput, 4⟩]⟩ :=
    .step inner (by with_unfolding_all rfl)
  exact ⟨reached, kept, _, last, rfl, keeps _ last, (keeps _ last).again _ _ _ _ _ rfl rfl rfl⟩

end GroupUnroll
