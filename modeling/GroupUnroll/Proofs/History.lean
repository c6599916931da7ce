import GroupUnroll.Proofs.Bodies
import GroupUnroll.Proofs.Lookup
import GroupUnroll.Proofs.SelfContained
import Mathlib.Data.List.Induction
import Mathlib.Data.List.Lex
import Mathlib.Data.String.Basic

/-! # What a table holds

A table is what its history of operations made of it. For each name it holds the body that was accepted last, if the
alias was not taken and the table not cleared since; its entries stand in increasing order of their names, and its
switches are as they were set last. An alias is accepted just when a reference can spell its name, so the aliases
that are held are those that a pattern can refer to.
-/

namespace GroupUnroll

namespace AliasTable

/-! ## Entries in order -/

section Entries

variable {entries : List (Text × Text)} {name other body text : Text}

theorem lookup_cons : List.lookup other ((name, text) :: entries) =
    if other = name then some text else entries.lookup other := by
  rw [List.lookup_cons]
  by_cases same : other = name
  · rw [beq_iff_eq.mpr same, if_pos same]
  · rw [beq_eq_false_iff_ne.mpr same, if_neg same]

/-- Setting the body of one name leaves the bodies of the others. -/
theorem lookup_insertEntry : (insertEntry name body entries).lookup other =
    if other = name then some body else entries.lookup other := by
  induction entries with
  | nil => rw [insertEntry, lookup_cons]
  | cons entry rest ih =>
    obtain ⟨first, text⟩ := entry
    rw [insertEntry]
    split
    · exact lookup_cons
    split
    · rename_i found
      subst found
      rw [lookup_cons, lookup_cons]
      split_ifs <;> rfl
    · rename_i found
      rw [lookup_cons, lookup_cons, ih]
      split_ifs with here same
      · exact absurd (same.symm.trans here) found
      · rfl
      · rfl
      · rfl

theorem lookup_filter_ne : (entries.filter fun entry => entry.1 ≠ name).lookup other =
    if other = name then none else entries.lookup other := by
  induction entries with
  | nil => split_ifs <;> rfl
  | cons entry rest ih =>
    obtain ⟨first, text⟩ := entry
    by_cases dropped : first = name
    · rw [List.filter_cons_of_neg (by simp [dropped]), ih, lookup_cons, dropped]
      split_ifs <;> rfl
    · rw [List.filter_cons_of_pos (by simp [dropped]), lookup_cons, lookup_cons, ih]
      split_ifs with here same
      · exact absurd (here.symm.trans same) dropped
      · rfl
      · rfl
      · rfl

/-- Whether entries stand in increasing order of their names. -/
def Ascending (entries : List (Text × Text)) : Prop := entries.Pairwise fun first second => first.1 < second.1

theorem Ascending.insertEntry (ascending : Ascending entries) : Ascending (insertEntry name body entries) := by
  induction entries with
  | nil => exact List.pairwise_singleton _ _
  | cons entry rest ih =>
    obtain ⟨first, text⟩ := entry
    obtain ⟨greater, later⟩ := List.pairwise_cons.mp ascending
    rw [AliasTable.insertEntry]
    split_ifs with before found
    · apply List.Pairwise.cons _ ascending
      intro entry member
      rcases List.mem_cons.mp member with rfl | behind
      · exact before
      · exact lt_trans before (greater entry behind)
    · exact .cons (fun entry behind => found ▸ greater entry behind) later
    · apply List.Pairwise.cons _ (ih later)
      intro entry member
      rcases mem_insertEntry member with rfl | behind
      · exact lt_of_le_of_ne (not_lt.mp before) (Ne.symm found)
      · exact greater entry behind

/-- Entries in order hold one body for each name. -/
theorem Ascending.lookup_eq_some_iff (ascending : Ascending entries) :
    entries.lookup name = some body ↔ (name, body) ∈ entries := by
  induction entries with
  | nil => simp
  | cons entry rest ih =>
    obtain ⟨first, text⟩ := entry
    obtain ⟨greater, later⟩ := List.pairwise_cons.mp ascending
    rw [lookup_cons, List.mem_cons, Prod.mk.injEq]
    split_ifs with same
    · subst same
      have once : (name, body) ∉ rest := fun member => lt_irrefl name (greater (name, body) member)
      simp [once, eq_comm]
    · simp [same, ih later]

end Entries

/-! ## Histories -/

/-- What is done to a table, or with one. -/
inductive Operation
  | insert (name body : Text)
  | take (name : Text)
  | clear
  | setReplacing (enabled : Bool)
  | setNaming (enabled : Bool)
  | unroll (ceiling : UInt64) (pattern : Text)

/-- The table after an operation. -/
def after (table : AliasTable) : Operation → AliasTable
  | .insert name body =>
    match table.insert name body with
    | .ok later => later
    | .error _ => table
  | .take name => (table.take name).2
  | .clear => table.clear
  | .setReplacing enabled => table.setReplacing enabled
  | .setNaming enabled => table.setNaming enabled
  | .unroll _ _ => table

/-- The table after a history of operations, which starts with the empty one. -/
def afterAll (history : List Operation) : AliasTable := history.foldl after .empty

/-- Whether an operation leaves alone what is held for a name. -/
def Operation.Spares (name : Text) (operation : Operation) : Prop :=
  (∀ body, operation ≠ .insert name body) ∧ operation ≠ .take name ∧ operation ≠ .clear

/-- Whether a body is the last one that was accepted for a name, and the alias was not removed since. -/
def LastWrite (history : List Operation) (name body : Text) : Prop :=
  ∃ before later, history = before ++ .insert name body :: later ∧
    (∃ table, (afterAll before).insert name body = .ok table) ∧ ∀ operation ∈ later, operation.Spares name

/-- The value that an operation sets the replacement of references to. -/
def Operation.replacing? : Operation → Option Bool
  | .setReplacing enabled => some enabled
  | _ => none

/-- The value that an operation sets the naming of replaced references to. -/
def Operation.naming? : Operation → Option Bool
  | .setNaming enabled => some enabled
  | _ => none

section Histories

variable {table : AliasTable} {history : List Operation} {operation : Operation} {name body : Text}

theorem afterAll_concat : afterAll (history ++ [operation]) = (afterAll history).after operation := by
  rw [afterAll, List.foldl_append]
  rfl

theorem exists_insert_iff : (∃ later, table.insert name body = .ok later) ↔ isReferable name = true := by
  simp only [insert_eq_ok, exists_and_left, exists_eq, and_true]

/-- A name that is held is one that would be accepted. -/
theorem Built.isReferable_of_get? (built : table.Built) (held : table.get? name = some body) :
    isReferable name = true :=
  built.isReferable_of_mem (mem_entries_of_get? held)

theorem built_after (built : table.Built) (operation : Operation) : (table.after operation).Built := by
  cases operation with
  | insert name body =>
    rw [after]
    cases inserted : table.insert name body with
    | ok later => exact .insert built inserted
    | error refusal => exact built
  | take name => exact .erase built name
  | clear => exact .clear built
  | setReplacing enabled => exact .setReplacing built enabled
  | setNaming enabled => exact .setNaming built enabled
  | unroll ceiling pattern => exact built

theorem built_afterAll (history : List Operation) : (afterAll history).Built := by
  induction history using List.reverseRecOn with
  | nil => exact .empty
  | append_singleton history operation ih => exact afterAll_concat ▸ built_after ih operation

theorem ascending_after (ascending : Ascending table.entries) (operation : Operation) :
    Ascending (table.after operation).entries := by
  cases operation with
  | insert name body =>
    rw [after]
    cases inserted : table.insert name body with
    | ok later =>
      obtain ⟨-, rfl⟩ := insert_eq_ok.mp inserted
      exact ascending.insertEntry
    | error refusal => exact ascending
  | take name => exact List.Pairwise.filter _ ascending
  | clear => exact .nil
  | _ => exact ascending

theorem ascending_afterAll (history : List Operation) : Ascending (afterAll history).entries := by
  induction history using List.reverseRecOn with
  | nil => exact .nil
  | append_singleton history operation ih => exact afterAll_concat ▸ ascending_after ih operation

/-- What is held for a name after an operation: the body it wrote, or what was held before if it spares the name. -/
theorem get?_after (built : table.Built) : (table.after operation).get? name = some body ↔
    (operation = .insert name body ∧ isReferable name = true) ∨
      (table.get? name = some body ∧ operation.Spares name) := by
  cases operation with
  | insert other text =>
    rw [after]
    cases inserted : table.insert other text with
    | ok later =>
      obtain ⟨referable, rfl⟩ := insert_eq_ok.mp inserted
      rw [get?, lookup_insertEntry]
      split_ifs with same
      · subst same
        simp [Operation.Spares, referable]
      · simp [Operation.Spares, get?, Ne.symm same]
    | error refusal =>
      have exists_accepted (referable : isReferable other = true) : ∃ later, table.insert other text = .ok later :=
        exists_insert_iff.mpr referable
      have different (held : table.get? name = some body) : name ≠ other := by
        rintro rfl
        obtain ⟨later, accepted⟩ := exists_accepted (built.isReferable_of_get? held)
        cases inserted.symm.trans accepted
      constructor
      · intro held
        have kept : (Operation.insert other text).Spares name := by simp [Operation.Spares, Ne.symm (different held)]
        exact .inr ⟨held, kept⟩
      · rintro (⟨same, referable⟩ | ⟨held, -⟩)
        · obtain ⟨rfl, rfl⟩ := Operation.insert.inj same
          obtain ⟨later, accepted⟩ := exists_accepted referable
          cases inserted.symm.trans accepted
        · exact held
  | take other =>
    rw [after, take, erase, get?, lookup_filter_ne]
    split_ifs with same
    · subst same
      simp [Operation.Spares]
    · simp [Operation.Spares, get?, Ne.symm same]
  | clear => simp [after, clear, get?, Operation.Spares]
  | _ => simp [after, setReplacing, setNaming, get?, Operation.Spares]

/-- What a history wrote last after one more operation: what the operation wrote, or what was written before if the
operation spares the name. -/
theorem lastWrite_concat : LastWrite (history ++ [operation]) name body ↔
    (operation = .insert name body ∧ isReferable name = true) ∨
      (LastWrite history name body ∧ operation.Spares name) := by
  constructor
  · rintro ⟨before, later, whole, accepted, spared⟩
    rcases List.eq_nil_or_concat later with rfl | ⟨later, last, rfl⟩
    · obtain ⟨rfl, same⟩ := List.append_inj' whole rfl
      exact .inl ⟨(List.cons.inj same).1, exists_insert_iff.mp accepted⟩
    · rw [List.concat_eq_append] at whole spared
      rw [← List.cons_append, ← List.append_assoc] at whole
      obtain ⟨rfl, same⟩ := List.append_inj' whole rfl
      obtain rfl := (List.cons.inj same).1
      have earlier (operation : Operation) (member : operation ∈ later) : operation.Spares name :=
        spared operation (List.mem_append_left _ member)
      have last := spared operation (List.mem_append_right _ (List.mem_singleton_self _))
      exact .inr ⟨⟨before, later, rfl, accepted, earlier⟩, last⟩
  · rintro (⟨rfl, referable⟩ | ⟨⟨before, later, rfl, accepted, spared⟩, last⟩)
    · exact ⟨history, [], rfl, exists_insert_iff.mpr referable, nofun⟩
    · refine ⟨before, later ++ [operation], by simp, accepted, fun other member => ?_⟩
      rcases List.mem_append.mp member with earlier | here
      · exact spared other earlier
      · obtain rfl := List.mem_singleton.mp here
        exact last

/-- A table holds what its history wrote last. -/
theorem get?_afterAll : (afterAll history).get? name = some body ↔ LastWrite history name body := by
  induction history using List.reverseRecOn with
  | nil =>
    constructor
    · intro held
      cases held
    · rintro ⟨before, later, whole, -⟩
      cases List.append_eq_nil_iff.mp whole.symm |>.2
  | append_singleton history operation ih =>
    rw [afterAll_concat, get?_after (built_afterAll history), lastWrite_concat, ih]

theorem exists_after_insert (table : AliasTable) (name body : Text) :
    ∃ entries, table.after (.insert name body) = { table with entries } := by
  rw [after]
  cases inserted : table.insert name body with
  | ok later => exact ⟨_, (insert_eq_ok.mp inserted).2⟩
  | error refusal => exact ⟨table.entries, rfl⟩

theorem replacing_after (table : AliasTable) (operation : Operation) :
    (table.after operation).replacing = operation.replacing?.getD table.replacing := by
  cases operation with
  | insert name body =>
    obtain ⟨entries, same⟩ := table.exists_after_insert name body
    rw [same]
    rfl
  | _ => rfl

theorem naming_after (table : AliasTable) (operation : Operation) :
    (table.after operation).naming = operation.naming?.getD table.naming := by
  cases operation with
  | insert name body =>
    obtain ⟨entries, same⟩ := table.exists_after_insert name body
    rw [same]
    rfl
  | _ => rfl

/-- A switch that operations set or leave alone is as it was set last. -/
theorem switch_afterAll {switch : AliasTable → Bool} {set? : Operation → Option Bool}
    (step : ∀ table operation, switch (table.after operation) = (set? operation).getD (switch table))
    (history : List Operation) :
    switch (afterAll history) = (history.filterMap set?).getLast?.getD (switch .empty) := by
  induction history using List.reverseRecOn with
  | nil => rfl
  | append_singleton history operation ih =>
    rw [afterAll_concat, step, ih, List.filterMap_append, List.getLast?_append, Option.getD_or]
    cases set : set? operation with
    | none => rw [List.filterMap_cons_none set]; rfl
    | some value => rw [List.filterMap_cons_some set]; rfl

end Histories

/-! ## Names in patterns -/

/-- The tokens of a name behind an at sign are the reference alone just when the name can be referred to. -/
theorem tokens_eq_reference_iff {name : Text} :
    (Cursor.start ('@' :: name)).tokens = [.reference name, .endOfInput] ↔ isReferable name = true := by
  rw [Cursor.tokens, Cursor.start]
  constructor
  · intro tokens
    rw [scanAll] at tokens
    have first := (List.cons.inj tokens).1
    exact isReferable_of_scan (Prod.ext first rfl)
  · intro referable
    rw [scanAll_of_scan (scan_reference referable) (by simp) (by simp), scanAll]

theorem LooksUp.isReferable {table : AliasTable} {pattern name : Text} (looksUp : table.LooksUp pattern name) :
    AliasTable.isReferable name = true := by
  obtain ⟨text, -, occurs⟩ := looksUp
  obtain ⟨_, _, _, read⟩ := exists_scan_of_mem occurs
  exact isReferable_of_scan read

/-- A reference alone is left as it is just when no alias is held for it. -/
theorem ofPattern_eq_verbatim_iff {table : AliasTable} {name : Text} (referable : AliasTable.isReferable name = true)
    (replacing : table.replacing = true) :
    Tree.ofPattern table ('@' :: name) = .ok [.plain ('@' :: name)] ↔ table.get? name = none := by
  cases known : table.get? name with
  | none =>
    have unknown : table.replacement? name = none := by simp [replacement?, replacing, known]
    rw [Tree.ofPattern_eq_ok_iff, spells_reference_iff referable]
    simp only [Tree.Means, Reader.meansWithin_of_unknown unknown, exists_eq_left]
  | some body =>
    rw [Tree.ofPattern_reference_iff referable replacing known]
    simp

/-- A table holds what its history wrote last, in order, and its switches are as the history set them last; a refused
alias changes nothing. An alias is accepted just when its name behind an at sign is one reference. So no pattern
refers to a name that could not be held, and with references replaced, the names that patterns refer to without
being left alone are those that are held. -/
theorem holds_last_writes (history : List Operation) :
    (∀ name body, (afterAll history).get? name = some body ↔ LastWrite history name body) ∧
    (∀ name body, (name, body) ∈ (afterAll history).entries ↔ LastWrite history name body) ∧
    (afterAll history).entries.Pairwise (fun first second => first.1 < second.1) ∧
    (afterAll history).replacing = (history.filterMap Operation.replacing?).getLast?.getD false ∧
    (afterAll history).naming = (history.filterMap Operation.naming?).getLast?.getD false ∧
    (∀ name body refusal, (afterAll history).insert name body = .error refusal →
      refusal = .badAliasName name ∧ afterAll (history ++ [.insert name body]) = afterAll history) ∧
    (∀ name body, (∃ later, (afterAll history).insert name body = .ok later) ↔
      (Cursor.start ('@' :: name)).tokens = [.reference name, .endOfInput]) ∧
    (∀ pattern name, (afterAll history).LooksUp pattern name →
      (Cursor.start ('@' :: name)).tokens = [.reference name, .endOfInput]) ∧
    ((afterAll history).replacing = true → ∀ name,
      (∀ body, LastWrite history name body ↔
        (∃ pattern, (afterAll history).LooksUp pattern name) ∧ (afterAll history).replacement? name = some body) ∧
      ((Cursor.start ('@' :: name)).tokens = [.reference name, .endOfInput] →
        (Tree.ofPattern (afterAll history) ('@' :: name) = .ok [.plain ('@' :: name)] ↔
          ∀ body, ¬ LastWrite history name body))) := by
  refine ⟨fun _ _ => get?_afterAll, ?_, ascending_afterAll history, switch_afterAll replacing_after history,
    switch_afterAll naming_after history, ?_, ?_, ?_, ?_⟩
  · intro name body
    rw [← (ascending_afterAll history).lookup_eq_some_iff]
    exact get?_afterAll
  · intro name body refusal refused
    have same : afterAll (history ++ [.insert name body]) = afterAll history := by
      rw [afterAll_concat, after, refused]
    rw [insert] at refused
    split_ifs at refused
    exact ⟨(Except.error.inj refused).symm, same⟩
  · intro name body
    rw [exists_insert_iff, tokens_eq_reference_iff]
  · intro pattern name looksUp
    exact tokens_eq_reference_iff.mpr looksUp.isReferable
  · intro replacing name
    have held (body : Text) : (afterAll history).replacement? name = some body ↔ LastWrite history name body := by
      rw [replacement?, if_pos replacing, get?_afterAll]
    constructor
    · intro body
      rw [held]
      refine ⟨fun written => ⟨⟨'@' :: name, '@' :: name, .self, ?_⟩, written⟩, And.right⟩
      have referable := (built_afterAll history).isReferable_of_get? (get?_afterAll.mpr written)
      have tokens := tokens_eq_reference_iff.mpr referable
      rw [Cursor.tokens, Cursor.start] at tokens
      exact tokens ▸ List.mem_cons_self ..
    · intro tokens
      rw [ofPattern_eq_verbatim_iff (tokens_eq_reference_iff.mp tokens) replacing, Option.eq_none_iff_forall_ne_some]
      simp only [ne_eq, get?_afterAll]

/-- A name that is overwritten, one that is refused and one that is taken. -/
def overwritten : List Operation :=
  [.insert ['b'] ['x'], .insert ['a'] ['y'], .insert ['B'] ['z'], .setReplacing true, .insert ['b'] "(@a".toList,
    .unroll 1 "@b".toList, .setNaming true, .take ['a'], .setNaming false]

theorem holds_last_writes_overwritten :
    LastWrite overwritten ['b'] "(@a".toList ∧ (afterAll overwritten).replacing = true ∧
    (afterAll overwritten).insert ['B'] ['z'] = .error (.badAliasName ['B']) ∧
    afterAll (overwritten ++ [.insert ['B'] ['z']]) = afterAll overwritten ∧
    (∃ pattern, (afterAll overwritten).LooksUp pattern ['b']) ∧
    (afterAll overwritten).LooksUp "@b".toList ['a'] ∧
    (Cursor.start "@a".toList).tokens = [.reference ['a'], .endOfInput] ∧
    Tree.ofPattern (afterAll overwritten) "@a".toList = .ok [.plain "@a".toList] := by
  obtain ⟨held, -, -, -, -, refused, -, looked, named⟩ := holds_last_writes overwritten
  have written : LastWrite overwritten ['b'] "(@a".toList := (held _ _).mp (by decide)
  have replacing : (afterAll overwritten).replacing = true := by decide
  have bad : (afterAll overwritten).insert ['B'] ['z'] = .error (.badAliasName ['B']) := by decide
  have refers : (afterAll overwritten).LooksUp "@b".toList ['a'] :=
    ⟨"(@a".toList, .inr ⟨['b'], .directly ⟨by decide +kernel, (held _ _).mpr written⟩⟩, by decide +kernel⟩
  have tokens := looked _ _ refers
  have unheld (body : Text) : ¬ LastWrite overwritten ['a'] body := by
    rw [← held]
    exact nofun
  have spelled := (((named replacing ['b']).1 _).mp written).1
  have left := ((named replacing ['a']).2 tokens).mpr unheld
  exact ⟨written, replacing, bad, (refused _ _ _ bad).2, spelled, refers, tokens, left⟩

end AliasTable

end GroupUnroll
