import GroupUnroll.Proofs.FirstRefusal
import GroupUnroll.Proofs.Lookup

/-! # Where a refusal comes from

A refusal that reading answers is handed up unchanged from the call that met it. A call meets a refusal in its
own tokens, where it is the one that its text is refused for with references left alone, or at a reference. A
reference is refused where its body is, or because the alias is being read already; then the path holds the
names that led there, each of them a reference in the body of the one before.
-/

namespace GroupUnroll

/-- Whether a refusal is about a place in the text being read. -/
def Refusal.isLocated : Refusal → Bool
  | .strayCloser _ | .unclosedGroup _ | .badQuantifier _ _ | .unclosedQuantifier _ => true
  | _ => false

/-- Whether a refusal is about a quantifier. -/
def Refusal.isAboutQuantifier : Refusal → Bool
  | .badQuantifier _ _ | .unclosedQuantifier _ => true
  | _ => false

/-- Each name is an alias that the text before it refers to: the first one the given text, and each further one
the body of the alias before it. -/
def AliasTable.Follows (table : AliasTable) : Text → List Text → Prop
  | _, [] => True
  | text, name :: names => ∃ body, table.RefersTo text name body ∧ table.Follows body names

/-! ## Refusals of a text alone -/

theorem Refusal.isLocated_of_isAboutQuantifier {refusal : Refusal} (about : refusal.isAboutQuantifier = true) :
    refusal.isLocated = true := by
  cases refusal with
  | badQuantifier position found => rfl
  | unclosedQuantifier position => rfl
  | _ => cases about

theorem Numeral.isAboutQuantifier_bound {numeral : Numeral} {refusal : Refusal}
    (refused : numeral.bound = .error refusal) : refusal.isAboutQuantifier = true := by
  unfold Numeral.bound at refused
  split at refused
  · cases refused
  · split at refused
    · cases refused
    · obtain rfl := Except.error.inj refused
      rfl

namespace BraceText

theorem isAboutQuantifier_read {opened position : Nat} {first : BraceText} {text : Text} {refusal : Refusal}
    (refused : read opened position first text = .error refusal) : refusal.isAboutQuantifier = true := by
  induction text generalizing first position with
  | nil =>
    obtain rfl := Except.error.inj refused
    rfl
  | cons c rest ih =>
    rw [read] at refused
    split_ifs at refused
    · exact ih refused
    · exact ih refused
    · exact ih refused
    · obtain rfl := Except.error.inj refused
      rfl

theorem isAboutQuantifier_bounds {done : BraceText} {refusal : Refusal} (refused : done.bounds = .error refusal) :
    refusal.isAboutQuantifier = true := by
  rcases bind_eq_error.mp refused with refused | ⟨lower, -, refused⟩
  · exact Numeral.isAboutQuantifier_bound refused
  rcases bind_eq_error.mp refused with refused | ⟨upper, -, refused⟩
  · exact Numeral.isAboutQuantifier_bound refused
  · split at refused <;> cases refused

end BraceText

theorem Repetition.isAboutQuantifier_ofQuantifier {raw : Text} {position : Nat} {refusal : Refusal}
    (refused : ofQuantifier raw position = .error refusal) : refusal.isAboutQuantifier = true := by
  unfold ofQuantifier at refused
  split at refused
  · cases refused
  · cases refused
  · rcases bind_eq_error.mp refused with refused | ⟨done, -, refused⟩
    · exact BraceText.isAboutQuantifier_read refused
    · exact BraceText.isAboutQuantifier_bounds refused
  · cases refused

theorem isLocated_firstRefusal {openGroups : List Nat} {tokens : List LocatedToken} {refusal : Refusal}
    (first : firstRefusal openGroups tokens = some refusal) : refusal.isLocated = true := by
  fun_induction firstRefusal openGroups tokens with
  | case1 => cases first
  | case2 _ _ _ _ _ ih => exact ih first
  | case3 =>
    obtain rfl := Option.some.inj first
    rfl
  | case4 _ _ _ _ ih => exact ih first
  | case5 _ _ _ _ _ refused =>
    obtain rfl := Option.some.inj first
    exact Refusal.isLocated_of_isAboutQuantifier (Repetition.isAboutQuantifier_ofQuantifier refused)
  | case6 _ _ _ _ _ _ ih => exact ih first
  | case7 =>
    obtain ⟨opened, -, rfl⟩ := Option.map_eq_some_iff.mp first
    rfl
  | case8 _ _ _ _ ih => exact ih first
  | case9 _ _ _ _ ih => exact ih first
  | case10 _ _ _ _ ih => exact ih first

section Calls

variable {readReference : ReferenceReader} {path : AliasPath} {text : Text} {refusal : Refusal}

/-- A call that reads every reference is refused for the first refusal of its tokens. -/
theorem answer_run_eq_error_iff (reads : ∀ name path, ∃ part, readReference name path = (.ok part, path)) :
    ((ReaderState.start (.ofPattern text) path).run readReference).answer = .error refusal ↔
      firstRefusal [] (locatedTokens text) = some refusal := by
  have meets : ((ReaderState.start (.ofPattern text) path).run readReference).Meets (0 + Text.byteLength text)
      (firstRefusal [] (locatedTokens text)) :=
    meetsFirst reads text false (by simp) (.start ⟨[], []⟩ path) 0 rfl
  cases first : firstRefusal [] (locatedTokens text) with
  | none =>
    rw [first] at meets
    obtain ⟨⟨tree, answer⟩, -⟩ := meets
    simp [answer]
  | some other =>
    rw [first] at meets
    have answer : ((ReaderState.start (.ofPattern text) path).run readReference).answer = .error other := meets
    simp [answer]

/-- With references left alone, a text is refused for the first refusal of its tokens. -/
theorem Tree.ofPattern_eq_error_iff_of_off {table : AliasTable} (off : table.replacing = false) :
    Tree.ofPattern table text = .error refusal ↔ firstRefusal [] (locatedTokens text) = some refusal := by
  have reads (name : Text) (path : AliasPath) :
      ∃ part, Reader.referencesWithin table table.size name path = (.ok part, path) :=
    ⟨_, (Reader.meansWithin_of_unknown (by simp [AliasTable.replacement?, off])).mpr rfl⟩
  rw [Tree.ofPattern, Reader.read, Reader.readWithin_eq]
  exact answer_run_eq_error_iff reads

/-! ## Refused references -/

/-- Read references alike, but leave those that are refused alone. -/
def ReferenceReader.orVerbatim (readReference : ReferenceReader) : ReferenceReader := fun name path =>
  match (readReference name path).1 with
  | .ok part => (.ok part, path)
  | .error _ => (.ok (.plain ('@' :: name)), path)

theorem ReferenceReader.orVerbatim_reads (readReference : ReferenceReader) (name : Text) (path : AliasPath) :
    ∃ part, readReference.orVerbatim name path = (.ok part, path) := by
  unfold orVerbatim
  split <;> exact ⟨_, rfl⟩

theorem ReferenceReader.orVerbatim_of_ok {name : Text} {part : Part}
    (read : readReference name path = (.ok part, path)) :
    readReference.orVerbatim name path = readReference name path := by
  rw [orVerbatim, read]

namespace ReaderState

/-- A step is the same with refused references left alone, or it is refused for one of them. -/
theorem step_orVerbatim (keeps : ∀ name path, (readReference name path).2 = path) (state : ReaderState) :
    state.step readReference = state.step readReference.orVerbatim ∨
      ∃ name refusal reader, .reference name ∈ state.reader.upcoming.map LocatedToken.token ∧
        readReference name state.path = (.error refusal, state.path) ∧
        state.step readReference = .done ⟨.error refusal, reader, state.path⟩ := by
  rcases state with ⟨⟨upcoming, openGroups⟩, frames, parts, path⟩
  rcases upcoming with _ | ⟨⟨token, position⟩, rest⟩
  · exact .inl rfl
  cases token with
  | reference name =>
    have kept := keeps name path
    cases found : readReference name path with
    | mk answer later =>
      obtain rfl : later = path := by rwa [found] at kept
      cases answer with
      | ok part =>
        left
        rw [step_of_reference rfl, step_of_reference rfl]
        simp only [atReference, ReferenceReader.orVerbatim_of_ok found]
      | error refusal =>
        right
        refine ⟨name, refusal, ⟨rest, openGroups⟩, by simp, found, ?_⟩
        rw [step_of_reference rfl, atReference, found]
  | _ => exact .inl rfl

/-- A call answers the same with refused references left alone, or it is refused for one of them. -/
theorem run_orVerbatim (keeps : ∀ name path, (readReference name path).2 = path) (state : ReaderState) :
    state.run readReference = state.run readReference.orVerbatim ∨
      ∃ name refusal, .reference name ∈ state.reader.upcoming.map LocatedToken.token ∧
        readReference name state.path = (.error refusal, state.path) ∧
        (state.run readReference).answer = .error refusal := by
  fun_induction run readReference state with
  | case1 state next more ih =>
    rcases step_orVerbatim keeps state with same | ⟨_, _, _, -, -, done⟩
    · have kept := path_step keeps state
      rw [more] at kept
      rw [run_of_more (same.symm.trans more)]
      rcases ih with again | ⟨name, refusal, occurs, refused, answer⟩
      · exact .inl again
      · refine .inr ⟨name, refusal, List.map_subset _ (suffix_step more).subset occurs, ?_, answer⟩
        rwa [show next.path = state.path from kept] at refused
    · exact absurd (more.symm.trans done) (by simp)
  | case2 state outcome done =>
    rcases step_orVerbatim keeps state with same | ⟨name, refusal, reader, occurs, refused, ended⟩
    · exact .inl (run_of_done (same.symm.trans done)).symm
    · obtain rfl := ReaderStep.done.inj (done.symm.trans ended)
      exact .inr ⟨name, refusal, occurs, refused, rfl⟩

end ReaderState

/-- What a text is refused for, it is refused for with references left alone, or one of its references is. -/
theorem refused_alone_or_reference (keeps : ∀ name path, (readReference name path).2 = path)
    (refused : ((ReaderState.start (.ofPattern text) path).run readReference).answer = .error refusal) :
    firstRefusal [] (locatedTokens text) = some refusal ∨
      ∃ name, .reference name ∈ scanAll false text ∧ readReference name path = (.error refusal, path) := by
  rcases ReaderState.run_orVerbatim keeps (.start (.ofPattern text) path) with
    same | ⟨name, other, occurs, found, answer⟩
  · rw [same] at refused
    exact .inl ((answer_run_eq_error_iff readReference.orVerbatim_reads).mp refused)
  · obtain rfl := Except.error.inj (answer.symm.trans refused)
    rw [token_upcoming_start] at occurs
    exact .inr ⟨name, occurs, found⟩

namespace Reader

variable {table : AliasTable} {depth : Nat} {name : Text}

/-- A reference is refused because no depth is left or its alias is being read, or for what its body is refused
for. -/
theorem referencesWithin_eq_error (refused : referencesWithin table depth name path = (.error refusal, path)) :
    ∃ body, table.replacement? name = some body ∧
      ((depth = 0 ∨ name ∈ path.names) ∧ refusal = .circularReference name path.names ∨
        name ∉ path.names ∧ ∃ less, depth = less + 1 ∧
          (readWithin table less (.ofPattern body) ⟨path.names ++ [name]⟩).answer = .error refusal) := by
  cases known : table.replacement? name with
  | none =>
    rw [referencesWithin_none known] at refused
    exact absurd refused (by simp)
  | some body =>
    refine ⟨body, rfl, ?_⟩
    by_cases again : name ∈ path.names
    · rw [referencesWithin_again known again] at refused
      exact .inl ⟨.inr again, (Except.error.inj (congrArg Prod.fst refused)).symm⟩
    · cases depth with
      | zero =>
        rw [referencesWithin_zero known] at refused
        exact .inl ⟨.inl rfl, (Except.error.inj (congrArg Prod.fst refused)).symm⟩
      | succ depth =>
        rw [referencesWithin_enter known again] at refused
        exact .inr ⟨again, depth, rfl, eq_error_of_map (congrArg Prod.fst refused)⟩

/-- On a path within the table, there is depth left for every alias that is not being read. -/
theorem referencesWithin_refused (within : path.Within table) (deep : table.size ≤ depth + path.length)
    (refused : referencesWithin table depth name path = (.error refusal, path)) :
    ∃ body, table.get? name = some body ∧
      (name ∈ path.names ∧ refusal = .circularReference name path.names ∨
        name ∉ path.names ∧ ∃ less, depth = less + 1 ∧
          (readWithin table less (.ofPattern body) ⟨path.names ++ [name]⟩).answer = .error refusal) := by
  obtain ⟨body, known, cause⟩ := referencesWithin_eq_error refused
  have found := AliasTable.get?_of_replacement? known
  refine ⟨body, found, ?_⟩
  rcases cause with ⟨rfl | again, circular⟩ | inner
  · rw [Nat.zero_add] at deep
    exact .inl ⟨within.not_fresh deep found, circular⟩
  · exact .inl ⟨again, circular⟩
  · exact .inr inner

end Reader

end Calls

/-! ## Refusals through bodies -/

/-- A refusal that is met while a text is read on a path: one for which a text that is read then is refused with
references left alone, or a name that is on the path when a reference leads to it again. -/
def Originates (table : AliasTable) (path : AliasPath) (text : Text) (refusal : Refusal) : Prop :=
  (refusal.isLocated = true ∧ ∃ source, table.Reads text source ∧
    Tree.ofPattern (table.setReplacing false) source = .error refusal) ∨
  ∃ name names, refusal = .circularReference name (path.names ++ names) ∧ name ∈ path.names ++ names ∧
    (path.names ++ names).Nodup ∧ table.Follows text (names ++ [name])

namespace Originates

variable {table : AliasTable} {path : AliasPath} {text name body : Text} {refusal : Refusal}

theorem alone (first : firstRefusal [] (locatedTokens text) = some refusal) :
    Originates table path text refusal :=
  .inl ⟨isLocated_firstRefusal first, text, .self, (Tree.ofPattern_eq_error_iff_of_off rfl).mpr first⟩

theorem again (within : path.Within table) (refers : table.RefersTo text name body) (again : name ∈ path.names) :
    Originates table path text (.circularReference name path.names) := by
  refine .inr ⟨name, [], ?_⟩
  rw [List.append_nil]
  exact ⟨rfl, again, within.nodup, body, refers, trivial⟩

theorem nested (refers : table.RefersTo text name body)
    (inner : Originates table ⟨path.names ++ [name]⟩ body refusal) : Originates table path text refusal := by
  rcases inner with ⟨located, source, reads, refused⟩ | ⟨last, names, rfl, again, nodup, follows⟩
  · exact .inl ⟨located, source, reads.after refers, refused⟩
  · rw [List.append_assoc, List.singleton_append] at again nodup ⊢
    exact .inr ⟨last, name :: names, rfl, again, nodup, body, refers, follows⟩

/-- On a path within the table, every refusal has an origin. -/
theorem of_readWithin {depth : Nat} (within : path.Within table) (deep : table.size ≤ depth + path.length)
    (refused : (Reader.readWithin table depth (.ofPattern text) path).answer = .error refusal) :
    Originates table path text refusal := by
  induction depth using Nat.strongRecOn generalizing path text with
  | ind depth ih =>
    rw [Reader.readWithin_eq] at refused
    rcases refused_alone_or_reference Reader.referencesWithin_keeps refused with first | ⟨name, occurs, refused⟩
    · exact .alone first
    obtain ⟨body, found, ⟨again, rfl⟩ | ⟨fresh, less, rfl, inner⟩⟩ :=
      Reader.referencesWithin_refused within deep refused
    · exact .again within ⟨occurs, found⟩ again
    · refine .nested ⟨occurs, found⟩ (ih less (Nat.lt_succ_self less) (within.enter found fresh) ?_ inner)
      rw [AliasPath.length_enter]
      omega

end Originates

/-- Every refusal of a pattern has an origin. One about a place in a text is what the pattern, or a body that the
pattern leads to, is refused for with references left alone: the same refusal at the same place. The other ones
are cycles: the path is one of references from the pattern, on which no alias is repeated, and which the last
reference leads back to. -/
theorem refusal_originates (table : AliasTable) (pattern : Text) (refusal : Refusal)
    (refused : Tree.ofPattern table pattern = .error refusal) :
    (refusal.isLocated = true ∧ ∃ text, table.Reads pattern text ∧
      Tree.ofPattern (table.setReplacing false) text = .error refusal) ∨
    ∃ name path, refusal = .circularReference name path ∧ name ∈ path ∧ path.Nodup ∧
      table.Follows pattern (path ++ [name]) :=
  Originates.of_readWithin (AliasPath.within_empty table) (Nat.le_add_right _ _) refused

/-- A table in which the body of the second alias has a parenthesis too many. -/
def strayBody : AliasTable := ⟨[("a".toList, "(@b)".toList), ("b".toList, "x)".toList)], true, false⟩

/-- A cycle of two aliases, and a refusal two bodies deep that comes before the one of the pattern. -/
theorem refusal_originates_ring :
    Tree.ofPattern ring "x@a".toList = .error (.circularReference ['a'] [['a'], ['b']]) ∧
    ring.Follows "x@a".toList [['a'], ['b'], ['a']] ∧
    Tree.ofPattern strayBody "(@a".toList = .error (.strayCloser 1) ∧
    ∃ text, strayBody.Reads "(@a".toList text ∧
      Tree.ofPattern (strayBody.setReplacing false) text = .error (.strayCloser 1) := by
  have circles : (Tree.ofPattern ring "x@a".toList).map (fun _ => ()) =
      .error (.circularReference ['a'] [['a'], ['b']]) := by
    decide +kernel
  have strays : (Tree.ofPattern strayBody "(@a".toList).map (fun _ => ()) = .error (.strayCloser 1) := by
    decide +kernel
  have circular := eq_error_of_map circles
  have stray := eq_error_of_map strays
  refine ⟨circular, ?_, stray, ?_⟩
  · rcases refusal_originates _ _ _ circular with ⟨located, -⟩ | ⟨name, path, same, -, -, follows⟩
    · cases located
    · obtain ⟨rfl, rfl⟩ := Refusal.circularReference.inj same
      exact follows
  · rcases refusal_originates _ _ _ stray with ⟨-, origin⟩ | ⟨name, path, same, -⟩
    · exact origin
    · cases same

end GroupUnroll
