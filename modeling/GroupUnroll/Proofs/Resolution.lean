import GroupUnroll.Proofs.Answer
import GroupUnroll.Proofs.References

/-! # Which references are resolved

The reference graph has an edge from a text to every alias whose name occurs as a reference in it. Bodies
are read along its paths, and a path never enters an alias twice, so it is never longer than the table:
the depth handed to `Reader.readWithin` is only there for the recursion, and no call is refused for
want of it. A pattern is read exactly if every text on its paths can be read with its references left
alone, and no path from it comes back to an alias.
-/

namespace GroupUnroll

/-! ## Paths within a table -/

theorem AliasTable.mem_entries_of_get? {table : AliasTable} {name body : Text}
    (known : table.get? name = some body) : (name, body) ∈ table.entries := by
  obtain ⟨before, after, entries, -⟩ := List.lookup_eq_some_iff.mp known
  rw [entries]
  exact List.mem_append_right _ (List.mem_cons_self ..)

theorem AliasTable.get?_of_replacement? {table : AliasTable} {name body : Text}
    (known : table.replacement? name = some body) : table.get? name = some body := by
  unfold replacement? at known
  split at known
  · exact known
  · cases known

/-- Aliases of the table, none of them twice. -/
structure AliasPath.Within (path : AliasPath) (table : AliasTable) : Prop where
  registered : ∀ name ∈ path.names, name ∈ table.entries.map Prod.fst
  nodup : path.names.Nodup

namespace AliasPath

variable {path : AliasPath} {table : AliasTable} {name body : Text}

theorem length_enter : length ⟨path.names ++ [name]⟩ = path.length + 1 := by
  rw [length, List.length_append, List.length_singleton]
  rfl

theorem within_empty (table : AliasTable) : empty.Within table := by
  constructor <;> simp [empty]

theorem Within.length_le (within : path.Within table) : path.length ≤ table.size := by
  have bound := within.nodup.length_le_of_subset within.registered
  rwa [List.length_map] at bound

theorem Within.enter (within : path.Within table) (known : table.get? name = some body)
    (fresh : name ∉ path.names) : Within ⟨path.names ++ [name]⟩ table := by
  constructor
  · intro other member
    rcases List.mem_append.mp member with before | last
    · exact within.registered other before
    · obtain rfl := List.mem_singleton.mp last
      exact List.mem_map_of_mem (AliasTable.mem_entries_of_get? known)
  · refine List.nodup_append.mpr ⟨within.nodup, by simp, ?_⟩
    intro first member second last same
    obtain rfl := List.mem_singleton.mp last
    exact fresh (same ▸ member)

/-- A path as long as the table holds every alias. -/
theorem Within.not_fresh (within : path.Within table) (full : table.size ≤ path.length)
    (known : table.get? name = some body) : name ∈ path.names := by
  refine Decidable.byContradiction fun fresh => ?_
  have longer := (within.enter known fresh).length_le
  rw [length_enter] at longer
  omega

end AliasPath

/-! ## The reference graph -/

/-- Whether the name of an alias occurs as a reference in a text. -/
def AliasTable.RefersTo (table : AliasTable) (text name body : Text) : Prop :=
  .reference name ∈ scanAll false text ∧ table.get? name = some body

/-- Whether a path of references leads from a text to an alias. -/
inductive AliasTable.Leads (table : AliasTable) (text : Text) : (name body : Text) → Prop
  | directly {name body : Text} (refers : table.RefersTo text name body) : Leads table text name body
  | further {first middle name body : Text} (leads : Leads table text first middle)
      (refers : table.RefersTo middle name body) : Leads table text name body

/-- Whether a text can be read with its references left alone. -/
def AliasTable.Readable (table : AliasTable) (text : Text) : Prop :=
  ∃ tree, Tree.ofPattern (table.setReplacing false) text = .ok tree

namespace AliasTable.Leads

variable {table : AliasTable} {text first middle name body : Text}

theorem known (leads : table.Leads text name body) : table.get? name = some body := by
  cases leads with
  | directly refers => exact refers.2
  | further _ refers => exact refers.2

theorem after (refers : table.RefersTo text first middle) (leads : table.Leads middle name body) :
    table.Leads text name body := by
  induction leads with
  | directly next => exact .further (.directly refers) next
  | further _ next ih => exact .further ih next

/-- A path of references starts with one reference. -/
theorem starts (leads : table.Leads text name body) : table.RefersTo text name body ∨
    ∃ first middle, table.RefersTo text first middle ∧ table.Leads middle name body := by
  induction leads with
  | directly refers => exact .inl refers
  | further _ next ih =>
    rcases ih with refers | ⟨first, middle, refers, leads⟩
    · exact .inr ⟨_, _, refers, .directly next⟩
    · exact .inr ⟨first, middle, refers, .further leads next⟩

end AliasTable.Leads

/-- What it takes to read a text on a path of aliases. -/
structure Resolves (table : AliasTable) (path : AliasPath) (text : Text) : Prop where
  readable : table.Readable text
  bodies : ∀ name body, table.Leads text name body → table.Readable body
  fresh : ∀ name body, table.Leads text name body → name ∉ path.names
  acyclic : ∀ name body, table.Leads text name body → ¬ table.Leads body name body

/-- A text resolves if it can be read, and each body it refers to resolves one alias deeper. -/
theorem resolves_iff {table : AliasTable} {path : AliasPath} {text : Text} :
    Resolves table path text ↔ table.Readable text ∧ ∀ name body, table.RefersTo text name body →
      name ∉ path.names ∧ Resolves table ⟨path.names ++ [name]⟩ body := by
  constructor
  · intro resolves
    refine ⟨resolves.readable, fun name body refers => ?_⟩
    refine ⟨resolves.fresh name body (.directly refers), resolves.bodies name body (.directly refers), ?_, ?_, ?_⟩
    · exact fun other text leads => resolves.bodies other text (leads.after refers)
    · intro other text leads member
      rcases List.mem_append.mp member with before | last
      · exact resolves.fresh other text (leads.after refers) before
      · -- the body would lead back to its own alias
        obtain rfl := List.mem_singleton.mp last
        obtain rfl := Option.some.inj (leads.known.symm.trans refers.2)
        exact resolves.acyclic other text (.directly refers) leads
    · exact fun other text leads => resolves.acyclic other text (leads.after refers)
  · rintro ⟨readable, bodies⟩
    refine ⟨readable, ?_, ?_, ?_⟩ <;> intro name body leads
    · rcases leads.starts with refers | ⟨first, middle, refers, later⟩
      · exact (bodies name body refers).2.readable
      · exact (bodies first middle refers).2.bodies name body later
    · rcases leads.starts with refers | ⟨first, middle, refers, later⟩
      · exact (bodies name body refers).1
      · intro member
        exact (bodies first middle refers).2.fresh name body later (List.mem_append_left _ member)
    · rcases leads.starts with refers | ⟨first, middle, refers, later⟩
      · intro back
        exact (bodies name body refers).2.fresh name body back (List.mem_append_right _ (by simp))
      · exact (bodies first middle refers).2.acyclic name body later

/-! ## Reading on a path -/

section Reading

variable {table : AliasTable} {path : AliasPath} {text : Text} {depth : Nat}

/-- A text is spelled exactly if it can be read with its references left alone and each of them means
something. -/
theorem exists_spells_iff {means : Text → Part → Prop} : (∃ tree, Spells means false text tree []) ↔
    table.Readable text ∧ ∀ name, .reference name ∈ scanAll false text → ∃ part, means name part := by
  have readable : table.Readable text ↔ ∃ tree, Spells Tree.Verbatim false text tree [] :=
    exists_congr fun tree => Tree.ofPattern_eq_ok_iff_of_off rfl
  rw [readable]
  constructor
  · rintro ⟨tree, spells⟩
    exact ⟨spells.exists_spells fun name _ => ⟨_, rfl⟩, fun name member => spells.readable_of_mem member⟩
  · rintro ⟨⟨tree, spells⟩, meant⟩
    exact spells.exists_spells meant

/-- Reading a text on a path, one alias deep. -/
theorem exists_read_iff (replacing : table.replacing = true) :
    (∃ tree, (Reader.readWithin table depth (.ofPattern text) path).answer = .ok tree) ↔
      table.Readable text ∧ ∀ name body, table.RefersTo text name body →
        ∃ part, Reader.MeansWithin table depth path name part := by
  have known (name : Text) : table.replacement? name = table.get? name := by
    simp [AliasTable.replacement?, replacing]
  simp only [Reader.answer_readWithin_eq_ok_iff]
  refine exists_spells_iff.trans (and_congr_right fun _ => ?_)
  refine ⟨fun meant name body refers => meant name refers.1, ?_⟩
  intro meant name member
  cases found : table.get? name with
  | none => exact ⟨_, (Reader.meansWithin_of_unknown ((known name).trans found)).mpr rfl⟩
  | some body => exact meant name body ⟨member, found⟩

/-- On a path within the table, a text is read exactly if it resolves. -/
theorem exists_read_iff_resolves (replacing : table.replacing = true) (within : path.Within table)
    (deep : table.size ≤ depth + path.length) :
    (∃ tree, (Reader.readWithin table depth (.ofPattern text) path).answer = .ok tree) ↔
      Resolves table path text := by
  have known {name body : Text} (found : table.get? name = some body) :
      table.replacement? name = some body := by
    simp [AliasTable.replacement?, replacing, found]
  induction depth generalizing path text with
  | zero =>
    rw [Nat.zero_add] at deep
    rw [exists_read_iff replacing, resolves_iff]
    refine and_congr_right fun _ => forall_congr' fun name => forall_congr' fun body =>
      forall_congr' fun refers => ?_
    constructor
    · rintro ⟨part, means⟩
      exact absurd means (Reader.not_meansWithin_zero (known refers.2))
    · rintro ⟨fresh, -⟩
      exact absurd (within.not_fresh deep refers.2) fresh
  | succ depth ih =>
    rw [exists_read_iff replacing, resolves_iff]
    refine and_congr_right fun _ => forall_congr' fun name => forall_congr' fun body =>
      forall_congr' fun refers => ?_
    have deeper : table.size ≤ depth + AliasPath.length ⟨path.names ++ [name]⟩ := by
      rw [AliasPath.length_enter]
      omega
    have entered (fresh : name ∉ path.names) :
        (∃ tree, (Reader.readWithin table depth (.ofPattern body) ⟨path.names ++ [name]⟩).answer =
          .ok tree) ↔ Resolves table ⟨path.names ++ [name]⟩ body :=
      ih (within.enter refers.2 fresh) deeper
    simp only [Reader.meansWithin_succ (known refers.2)]
    constructor
    · rintro ⟨part, fresh, tree, read, -⟩
      exact ⟨fresh, (entered fresh).mp ⟨tree, read⟩⟩
    · rintro ⟨fresh, resolves⟩
      obtain ⟨tree, read⟩ := (entered fresh).mpr resolves
      exact ⟨_, fresh, tree, read, rfl⟩

theorem readWithin_succ_of_references (same : ∀ name,
    Reader.referencesWithin table depth name path = Reader.referencesWithin table (depth + 1) name path)
    (reader : Reader) :
    Reader.readWithin table depth reader path = Reader.readWithin table (depth + 1) reader path := by
  rw [Reader.readWithin_eq, Reader.readWithin_eq]
  exact ReaderState.run_congr Reader.referencesWithin_keeps _ fun name _ => same name

/-- Deeper than the table has aliases left, more depth changes nothing. -/
theorem referencesWithin_succ (within : path.Within table) (deep : table.size ≤ depth + path.length)
    (name : Text) :
    Reader.referencesWithin table depth name path = Reader.referencesWithin table (depth + 1) name path := by
  induction depth generalizing path name with
  | zero =>
    rw [Nat.zero_add] at deep
    cases known : table.replacement? name with
    | none => rw [Reader.referencesWithin_none known, Reader.referencesWithin_none known]
    | some body =>
      have again := within.not_fresh deep (AliasTable.get?_of_replacement? known)
      rw [Reader.referencesWithin_again known again, Reader.referencesWithin_again known again]
  | succ depth ih =>
    cases known : table.replacement? name with
    | none => rw [Reader.referencesWithin_none known, Reader.referencesWithin_none known]
    | some body =>
      by_cases again : name ∈ path.names
      · rw [Reader.referencesWithin_again known again, Reader.referencesWithin_again known again]
      · have entered := within.enter (AliasTable.get?_of_replacement? known) again
        have deeper : table.size ≤ depth + AliasPath.length ⟨path.names ++ [name]⟩ := by
          rw [AliasPath.length_enter]
          omega
        have same := readWithin_succ_of_references (ih entered deeper) (.ofPattern body)
        rw [Reader.referencesWithin_enter known again, Reader.referencesWithin_enter known again, same]

end Reading

/-! ## Nested calls -/

theorem map_token_locate (position : Nat) (tokens : List Token) :
    (locate position tokens).map LocatedToken.token = tokens := by
  induction tokens generalizing position with
  | nil => rfl
  | cons token tokens ih => rw [locate, List.map_cons, ih]

theorem token_upcoming_start (text : Text) (path : AliasPath) :
    (ReaderState.start (.ofPattern text) path).reader.upcoming.map LocatedToken.token = scanAll false text :=
  map_token_locate 0 (scanAll false text)

/-- The calls that reading a pattern may lead to: the text each one reads, and the path it is on. -/
inductive Nests (table : AliasTable) (pattern : Text) : (text : Text) → (path : AliasPath) → Prop
  | outermost : Nests table pattern pattern .empty
  | nested {text name body : Text} {path entered : AliasPath} (outer : Nests table pattern text path)
      (occurs : .reference name ∈ scanAll false text) (known : table.replacement? name = some body)
      (enters : path.enter name = .ok entered) : Nests table pattern body entered

namespace Nests

variable {table : AliasTable} {pattern text : Text} {path : AliasPath}

theorem within (nests : Nests table pattern text path) : path.Within table := by
  induction nests with
  | outermost => exact AliasPath.within_empty table
  | @nested _ name body path _ _ _ known enters within =>
    unfold AliasPath.enter at enters
    split at enters
    · cases enters
    · rename_i fresh
      obtain rfl := Except.ok.inj enters
      exact within.enter (AliasTable.get?_of_replacement? known) fresh

/-- A call answers what the recursion through the bodies of aliases answers, and the only calls made from
it are nested ones. -/
theorem read_eq_run (nests : Nests table pattern text path) {readBody : Text → AliasPath → ReaderOutcome}
    (same : ∀ body entered, Nests table pattern body entered →
      readBody body entered = Reader.read table (.ofPattern body) entered) :
    Reader.read table (.ofPattern text) path =
      (ReaderState.start (.ofPattern text) path).run (table.readNested readBody) := by
  have deep : table.size ≤ table.size + path.length := Nat.le_add_right _ _
  have enough := readWithin_succ_of_references (referencesWithin_succ nests.within deep) (.ofPattern text)
  rw [Reader.read, enough, Reader.readWithin_eq]
  refine ReaderState.run_congr Reader.referencesWithin_keeps _ fun name occurs => ?_
  rw [token_upcoming_start] at occurs
  change table.readNested _ name path = table.readNested _ name path
  cases known : table.replacement? name with
  | none => rw [AliasTable.readNested_none known, AliasTable.readNested_none known]
  | some body =>
    by_cases again : name ∈ path.names
    · rw [AliasTable.readNested_again known again, AliasTable.readNested_again known again]
    · have inner := nests.nested occurs known (if_neg again)
      rw [AliasTable.readNested_enter known again, AliasTable.readNested_enter known again,
        same body _ inner]
      rfl

end Nests

/-- Reading never nests deeper than there are aliases: no nested call is on a longer path, and what a
call answers is what the recursion through the bodies answers, by way of nested calls alone. A pattern is
read exactly if it and every body that its references lead to can be read with references left alone,
and none of these aliases leads back to itself. -/
theorem ofPattern_resolves {table : AliasTable} (replacing : table.replacing = true) (pattern : Text) :
    (∀ text path, Nests table pattern text path → path.length ≤ table.size ∧
      ∀ readBody : Text → AliasPath → ReaderOutcome,
        (∀ body entered, Nests table pattern body entered →
          readBody body entered = Reader.read table (.ofPattern body) entered) →
        Reader.read table (.ofPattern text) path =
          (ReaderState.start (.ofPattern text) path).run (table.readNested readBody)) ∧
    ((∃ tree, Tree.ofPattern table pattern = .ok tree) ↔
      (table.Readable pattern ∧ ∀ name body, table.Leads pattern name body → table.Readable body) ∧
      ∀ name body, table.Leads pattern name body → ¬ table.Leads body name body) := by
  constructor
  · intro text path nests
    exact ⟨nests.within.length_le, fun readBody => nests.read_eq_run⟩
  · have deep : table.size ≤ table.size + AliasPath.empty.length := Nat.le_add_right _ _
    refine (exists_read_iff_resolves replacing (AliasPath.within_empty table) deep).trans ?_
    constructor
    · intro resolves
      exact ⟨⟨resolves.readable, resolves.bodies⟩, resolves.acyclic⟩
    · rintro ⟨⟨readable, bodies⟩, acyclic⟩
      refine ⟨readable, bodies, fun name body _ member => ?_, acyclic⟩
      exact absurd member (by simp [AliasPath.empty])

/-- A table in which one alias refers to the other. -/
def chain : AliasTable := ⟨[("a".toList, "(@b)".toList), ("b".toList, "x".toList)], true, false⟩

/-- A table in which two aliases refer to each other. -/
def ring : AliasTable := ⟨[("a".toList, "(@b)".toList), ("b".toList, "@a".toList)], true, false⟩

/-- An alias may be reached on two paths, but not from itself. -/
theorem ofPattern_resolves_chain :
    chain.replacing = true ∧ ring.replacing = true ∧
    ((chain.Readable "@a@b".toList ∧
        ∀ name body, chain.Leads "@a@b".toList name body → chain.Readable body) ∧
      ∀ name body, chain.Leads "@a@b".toList name body → ¬ chain.Leads body name body) ∧
    ¬ ((ring.Readable "@a".toList ∧
        ∀ name body, ring.Leads "@a".toList name body → ring.Readable body) ∧
      ∀ name body, ring.Leads "@a".toList name body → ¬ ring.Leads body name body) := by
  have chainReplaces : chain.replacing = true := rfl
  have ringReplaces : ring.replacing = true := rfl
  refine ⟨chainReplaces, ringReplaces, ?_, ?_⟩
  · have read : (Tree.ofPattern chain "@a@b".toList).isOk = true := by decide +kernel
    exact (ofPattern_resolves chainReplaces "@a@b".toList).2.mp (exists_eq_ok read)
  · have refused : (Tree.ofPattern ring "@a".toList).isOk = false := by decide +kernel
    intro resolves
    obtain ⟨tree, read⟩ := (ofPattern_resolves ringReplaces "@a".toList).2.mpr resolves
    rw [read] at refused
    exact absurd refused (by simp [Except.isOk, Except.toBool])

end GroupUnroll
