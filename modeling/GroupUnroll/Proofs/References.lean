import GroupUnroll.Proofs.Reading

/-! # Reading references

A reference to a known alias is replaced by the tree of its body, which is read on the path of aliases
with the name added. Whatever a body answers, the path is what it was before the reference. So a
pattern is read exactly if the grammar spells it with each reference standing for what its body is
read as.
-/

namespace GroupUnroll

/-! ## The path of aliases is kept -/

namespace ReaderState

variable {readReference : ReferenceReader}

theorem path_closeGroup (state : ReaderState) (openGroups : List Nat) (frame : Frame)
    (frames : List Frame) (rest : List LocatedToken) :
    (state.closeGroup openGroups frame frames rest).path = state.path := by
  rcases rest with _ | ⟨⟨token, position⟩, rest⟩
  · rfl
  cases token with
  | quantifier raw => exact path_withBounds _
  | _ => rfl

theorem path_step (keeps : ∀ name path, (readReference name path).2 = path) (state : ReaderState) :
    (state.step readReference).path = state.path := by
  obtain ⟨⟨upcoming, openGroups⟩, frames, parts, path⟩ := state
  rcases upcoming with _ | ⟨⟨token, position⟩, rest⟩
  · cases openGroups <;> rfl
  cases token with
  | endOfInput => cases openGroups <;> rfl
  | closer =>
    rcases openGroups with _ | ⟨opened, openGroups⟩
    · rfl
    rcases frames with _ | ⟨frame, frames⟩
    · rfl
    exact path_closeGroup _ openGroups frame frames rest
  | reference name =>
    have kept := keeps name path
    rw [step_of_reference rfl, atReference]
    split <;> rename_i found <;> rw [found] at kept <;> exact kept
  | _ => rfl

/-- A call leaves the path of aliases as it found it, whatever it answers. -/
theorem path_run (keeps : ∀ name path, (readReference name path).2 = path) (state : ReaderState) :
    (state.run readReference).path = state.path := by
  fun_induction run readReference state with
  | case1 state next more ih =>
    have kept := path_step keeps state
    rw [more] at kept
    exact ih.trans kept
  | case2 state outcome done =>
    have kept := path_step keeps state
    rwa [done] at kept

/-- A step consumes tokens from the front. -/
theorem suffix_step {state next : ReaderState} (more : state.step readReference = .more next) :
    next.reader.upcoming <:+ state.reader.upcoming := by
  obtain ⟨located, rest, upcoming, suffix⟩ := suffix_of_more more
  rw [upcoming]
  exact suffix.trans (List.suffix_cons ..)

theorem step_congr {other : ReferenceReader} {state : ReaderState}
    (same : ∀ name, .reference name ∈ state.reader.upcoming.map LocatedToken.token →
      readReference name state.path = other name state.path) :
    state.step readReference = state.step other := by
  obtain ⟨⟨upcoming, openGroups⟩, frames, parts, path⟩ := state
  rcases upcoming with _ | ⟨⟨token, position⟩, rest⟩
  · rfl
  cases token with
  | reference name =>
    rw [step_of_reference rfl, step_of_reference rfl, atReference, atReference,
      same name (List.mem_cons_self ..)]
  | _ => rfl

/-- Calls that read the references before them alike on their path answer alike. -/
theorem run_congr {other : ReferenceReader} (keeps : ∀ name path, (readReference name path).2 = path)
    (state : ReaderState) (same : ∀ name, .reference name ∈ state.reader.upcoming.map LocatedToken.token →
      readReference name state.path = other name state.path) :
    state.run readReference = state.run other := by
  fun_induction run readReference state with
  | case1 state next more ih =>
    have kept := path_step keeps state
    rw [more] at kept
    rw [run_of_more ((step_congr same).symm.trans more)]
    refine ih fun name member => ?_
    rw [show next.path = state.path from kept]
    exact same name (List.map_subset _ (suffix_step more).subset member)
  | case2 state outcome done =>
    rw [run_of_done ((step_congr same).symm.trans done)]

end ReaderState

/-! ## Bodies of aliases -/

namespace AliasTable

/-- Read a reference by reading the body of the alias, with the name added to the path, by
`readBody`. -/
def readNested (table : AliasTable) (readBody : Text → AliasPath → ReaderOutcome) : ReferenceReader :=
  table.readReference fun name body path =>
    match path.enter name with
    | .error refusal => (.error refusal, path)
    | .ok entered =>
      ((readBody body entered).answer.map (.reference name), (readBody body entered).path.leave)

variable {table : AliasTable} {readBody : Text → AliasPath → ReaderOutcome} {name body : Text}
  {path : AliasPath}

theorem readNested_none (unknown : table.replacement? name = none) :
    table.readNested readBody name path = (.ok (.plain ('@' :: name)), path) := by
  simp only [readNested, readReference, unknown]

theorem readNested_again (known : table.replacement? name = some body) (again : name ∈ path.names) :
    table.readNested readBody name path = (.error (.circularReference name path.names), path) := by
  simp only [readNested, readReference, known, AliasPath.enter, if_pos again]

theorem readNested_enter (known : table.replacement? name = some body) (fresh : name ∉ path.names) :
    table.readNested readBody name path =
      ((readBody body ⟨path.names ++ [name]⟩).answer.map (.reference name),
        (readBody body ⟨path.names ++ [name]⟩).path.leave) := by
  simp only [readNested, readReference, known, AliasPath.enter, if_neg fresh]

theorem readNested_keeps (keeps : ∀ body path, (readBody body path).path = path) (name : Text)
    (path : AliasPath) : (table.readNested readBody name path).2 = path := by
  cases known : table.replacement? name with
  | none => rw [readNested_none known]
  | some body =>
    by_cases again : name ∈ path.names
    · rw [readNested_again known again]
    · rw [readNested_enter known again]
      dsimp only
      rw [keeps]
      simp [AliasPath.leave]

/-- At the greatest depth every reference to a known alias is refused as a cycle. -/
def readBottom (table : AliasTable) : ReferenceReader :=
  table.readReference fun name _ path => (.error (.circularReference name path.names), path)

theorem readBottom_keeps (name : Text) (path : AliasPath) : (table.readBottom name path).2 = path := by
  unfold readBottom readReference
  split <;> rfl

end AliasTable

namespace Reader

/-- How references are read when they may nest at most `depth` deep. -/
def referencesWithin (table : AliasTable) : (depth : Nat) → ReferenceReader
  | 0 => table.readBottom
  | depth + 1 => table.readNested fun body entered => readWithin table depth (ofPattern body) entered

variable {table : AliasTable} {depth : Nat} {reader : Reader} {path : AliasPath}
  {text name body : Text} {tree : Tree} {part : Part}

theorem readWithin_eq : readWithin table depth reader path =
    (ReaderState.start reader path).run (referencesWithin table depth) := by
  cases depth <;> rfl

theorem path_readWithin : (readWithin table depth reader path).path = path := by
  induction depth generalizing reader path with
  | zero => exact ReaderState.path_run table.readBottom_keeps _
  | succ depth ih => exact ReaderState.path_run (AliasTable.readNested_keeps fun _ _ => ih) _

theorem referencesWithin_keeps (name : Text) (path : AliasPath) :
    (referencesWithin table depth name path).2 = path := by
  cases depth with
  | zero => exact table.readBottom_keeps name path
  | succ depth => exact AliasTable.readNested_keeps (fun _ _ => path_readWithin) name path

theorem referencesWithin_none (unknown : table.replacement? name = none) :
    referencesWithin table depth name path = (.ok (.plain ('@' :: name)), path) := by
  cases depth with
  | zero => simp only [referencesWithin, AliasTable.readBottom, AliasTable.readReference, unknown]
  | succ depth => exact AliasTable.readNested_none unknown

theorem referencesWithin_zero (known : table.replacement? name = some body) :
    referencesWithin table 0 name path = (.error (.circularReference name path.names), path) := by
  simp only [referencesWithin, AliasTable.readBottom, AliasTable.readReference, known]

theorem referencesWithin_again (known : table.replacement? name = some body) (again : name ∈ path.names) :
    referencesWithin table depth name path = (.error (.circularReference name path.names), path) := by
  cases depth with
  | zero => exact referencesWithin_zero known
  | succ depth => exact AliasTable.readNested_again known again

/-- An alias is entered to read its body, and left again. -/
theorem referencesWithin_enter (known : table.replacement? name = some body) (fresh : name ∉ path.names) :
    referencesWithin table (depth + 1) name path =
      ((readWithin table depth (ofPattern body) ⟨path.names ++ [name]⟩).answer.map (.reference name), path) := by
  refine (AliasTable.readNested_enter known fresh).trans ?_
  rw [path_readWithin, AliasPath.leave_of_enter (if_neg fresh)]

/-- What a reference may be read as, on a path and with references nested at most `depth` deep. -/
def MeansWithin (table : AliasTable) (depth : Nat) (path : AliasPath) : Text → Part → Prop :=
  (referencesWithin table depth).Means path

theorem meansWithin_of_unknown (unknown : table.replacement? name = none) :
    MeansWithin table depth path name part ↔ part = .plain ('@' :: name) := by
  rw [MeansWithin, ReferenceReader.Means, referencesWithin_none unknown]
  simp [eq_comm]

theorem not_meansWithin_zero (known : table.replacement? name = some body) :
    ¬ MeansWithin table 0 path name part := by
  simp [MeansWithin, ReferenceReader.Means, referencesWithin_zero known]

/-- A known alias means the tree of its body, read on the path with the name added. -/
theorem meansWithin_succ (known : table.replacement? name = some body) :
    MeansWithin table (depth + 1) path name part ↔ name ∉ path.names ∧
      ∃ tree, (readWithin table depth (ofPattern body) ⟨path.names ++ [name]⟩).answer = .ok tree ∧
        part = .reference name tree := by
  rw [MeansWithin, ReferenceReader.Means]
  by_cases again : name ∈ path.names
  · simp [referencesWithin_again known again, again]
  · rw [referencesWithin_enter known again]
    cases (readWithin table depth (ofPattern body) ⟨path.names ++ [name]⟩).answer with
    | error refusal => simp [Except.map]
    | ok tree => simp [Except.map, again, eq_comm]

/-- A reference is spelled by its name, whatever it means. -/
theorem source_of_meansWithin (means : MeansWithin table depth path name part) :
    part.source = '@' :: name := by
  cases known : table.replacement? name with
  | none =>
    rw [(meansWithin_of_unknown known).mp means]
    simp [Part.source]
  | some body =>
    cases depth with
    | zero => exact absurd means (not_meansWithin_zero known)
    | succ depth =>
      obtain ⟨-, tree, -, rfl⟩ := (meansWithin_succ known).mp means
      simp [Part.source]

/-- A text is read as the trees it spells. -/
theorem answer_readWithin_eq_ok_iff :
    (readWithin table depth (ofPattern text) path).answer = .ok tree ↔
      Spells (MeansWithin table depth path) false text tree [] := by
  rw [readWithin_eq]
  refine run_ofPattern_eq_ok_iff fun name part later found => ?_
  have kept : (referencesWithin table depth name path).2 = path := referencesWithin_keeps name path
  rwa [found] at kept

end Reader

namespace Tree

variable {table : AliasTable} {text : Text} {tree : Tree}

/-- What a reference of a pattern may be read as. -/
abbrev Means (table : AliasTable) : Text → Part → Prop := Reader.MeansWithin table table.size .empty

/-- The trees of a pattern are those it spells. -/
theorem ofPattern_eq_ok_iff : ofPattern table text = .ok tree ↔ Spells (Means table) false text tree [] :=
  Reader.answer_readWithin_eq_ok_iff

/-- A reference that stays text. -/
def Verbatim (name : Text) (part : Part) : Prop := part = .plain ('@' :: name)

theorem ofPattern_eq_ok_iff_of_off (off : table.replacing = false) :
    ofPattern table text = .ok tree ↔ Spells Verbatim false text tree [] := by
  have verbatim (name : Text) (part : Part) : Means table name part ↔ Verbatim name part :=
    Reader.meansWithin_of_unknown (by simp [AliasTable.replacement?, off])
  rw [ofPattern_eq_ok_iff]
  exact ⟨.mono fun name part => (verbatim name part).mp, .mono fun name part => (verbatim name part).mpr⟩

end Tree

end GroupUnroll
