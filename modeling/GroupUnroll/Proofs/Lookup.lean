import GroupUnroll.Proofs.Resolution
import GroupUnroll.Proofs.RoundTrip
import GroupUnroll.Proofs.Unrolled

/-! # What reading a pattern looks up

A reference is the only thing a table is asked about, and the body of an alias is only read where a reference to
it is. So two tables that agree on every name that occurs as a reference in the pattern, or in a body that its
references lead to, read the pattern alike, whatever else they hold; the number of aliases bounds how deep
bodies are read, but no call comes to that depth. With references left alone there is nothing to look up, and
nothing that could be named.
-/

namespace GroupUnroll

/-- Whether a text is read when the pattern is: it is the pattern itself or a body that the pattern leads to. -/
def AliasTable.Reads (table : AliasTable) (pattern text : Text) : Prop :=
  text = pattern ∨ ∃ name, table.Leads pattern name text

/-- Whether a name is looked up when the pattern is read. -/
def AliasTable.LooksUp (table : AliasTable) (pattern name : Text) : Prop :=
  ∃ text, table.Reads pattern text ∧ .reference name ∈ scanAll false text

namespace AliasTable

variable {table : AliasTable} {pattern text name body : Text}

theorem Reads.self : table.Reads pattern pattern := .inl rfl

theorem Reads.after (refers : table.RefersTo pattern name body) (reads : table.Reads body text) :
    table.Reads pattern text := by
  rcases reads with rfl | ⟨other, leads⟩
  · exact .inr ⟨name, .directly refers⟩
  · exact .inr ⟨other, leads.after refers⟩

theorem Reads.leads (reads : table.Reads pattern text) (refers : table.RefersTo text name body) :
    table.Leads pattern name body := by
  rcases reads with rfl | ⟨other, leads⟩
  · exact .directly refers
  · exact .further leads refers

theorem Leads.mem (leads : table.Leads pattern name body) : body ∈ table.entries.map Prod.snd :=
  List.mem_map_of_mem (mem_entries_of_get? leads.known)

/-- A text that is read is the pattern or the body of an alias in the table. -/
theorem Reads.mem (reads : table.Reads pattern text) : text = pattern ∨ text ∈ table.entries.map Prod.snd := by
  rcases reads with rfl | ⟨name, leads⟩
  · exact .inl rfl
  · exact .inr leads.mem

theorem LooksUp.after {other : Text} (refers : table.RefersTo pattern name body)
    (looksUp : table.LooksUp body other) : table.LooksUp pattern other := by
  obtain ⟨text, reads, occurs⟩ := looksUp
  exact ⟨text, reads.after refers, occurs⟩

end AliasTable

/-! ## Reading with two tables -/

section Tables

variable {table other : AliasTable} {text pattern : Text} {depth : Nat} {path : AliasPath}

/-- At the same depth, tables that agree on the names that are looked up read a text alike. -/
theorem Reader.readWithin_congr
    (agree : ∀ name, table.LooksUp text name → table.replacement? name = other.replacement? name) :
    Reader.readWithin table depth (.ofPattern text) path =
      Reader.readWithin other depth (.ofPattern text) path := by
  induction depth generalizing text path with
  | zero =>
    rw [Reader.readWithin_eq, Reader.readWithin_eq]
    refine ReaderState.run_congr Reader.referencesWithin_keeps _ fun name occurs => ?_
    rw [token_upcoming_start] at occurs
    have same := agree name ⟨text, .self, occurs⟩
    simp only [Reader.referencesWithin, AliasTable.readBottom, AliasTable.readReference, same]
  | succ depth ih =>
    rw [Reader.readWithin_eq, Reader.readWithin_eq]
    refine ReaderState.run_congr Reader.referencesWithin_keeps _ fun name occurs => ?_
    rw [token_upcoming_start] at occurs
    have same := agree name ⟨text, .self, occurs⟩
    change referencesWithin table _ name path = referencesWithin other _ name path
    cases known : table.replacement? name with
    | none => rw [referencesWithin_none known, referencesWithin_none (same.symm.trans known)]
    | some body =>
      have known' := same.symm.trans known
      by_cases again : name ∈ path.names
      · rw [referencesWithin_again known again, referencesWithin_again known' again]
      · have refers : table.RefersTo text name body := ⟨occurs, AliasTable.get?_of_replacement? known⟩
        have inner : Reader.readWithin table depth (.ofPattern body) ⟨path.names ++ [name]⟩ =
            Reader.readWithin other depth (.ofPattern body) ⟨path.names ++ [name]⟩ :=
          ih fun name looksUp => agree name (looksUp.after refers)
        rw [referencesWithin_enter known again, referencesWithin_enter known' again, inner]

/-- Any depth that leaves room for every alias reads a pattern. -/
theorem Reader.read_eq_readWithin (deep : table.size ≤ depth) :
    Reader.read table (.ofPattern text) .empty = Reader.readWithin table depth (.ofPattern text) .empty := by
  induction deep with
  | refl => rfl
  | @step depth deep ih =>
    have enough : table.size ≤ depth + AliasPath.empty.length := Nat.le_add_right_of_le deep
    rw [ih]
    exact readWithin_succ_of_references (referencesWithin_succ (AliasPath.within_empty table) enough) _

/-- Tables that agree on the names that are looked up read a pattern alike, refusals included. -/
theorem Tree.ofPattern_congr
    (agree : ∀ name, table.LooksUp pattern name → table.replacement? name = other.replacement? name) :
    Tree.ofPattern table pattern = Tree.ofPattern other pattern := by
  have deep : table.size ≤ max table.size other.size := Nat.le_max_left ..
  have deep' : other.size ≤ max table.size other.size := Nat.le_max_right ..
  rw [Tree.ofPattern, Tree.ofPattern, Reader.read_eq_readWithin deep, Reader.read_eq_readWithin deep',
    Reader.readWithin_congr agree]

/-- With references left alone the aliases do not matter. -/
theorem Tree.ofPattern_eq_of_off (off : table.replacing = false) (off' : other.replacing = false) :
    Tree.ofPattern table pattern = Tree.ofPattern other pattern := by
  refine Tree.ofPattern_congr fun name _ => ?_
  simp [AliasTable.replacement?, off, off']

end Tables

/-! ## Writing without references -/

/-- Plain text is written before what the tree behind it becomes, joined to it or not. -/
theorem Unroller.emit_join_plain {unroller : Unroller} (used : Nat) (text : Text) (tree : Tree) :
    unroller.emit used (Tree.join (.plain text) tree) =
      (unroller.emit (used + Text.byteLength text) tree).map (text ++ ·) := by
  have apart (used : Nat) (text : Text) (rest : Tree) : unroller.emit used (.plain text :: rest) =
      (unroller.emit (used + Text.byteLength text) rest).map (text ++ ·) := by
    rw [emit, emitPart]
    rfl
  rcases tree with _ | ⟨more | _ | _, rest⟩
  · exact apart used text []
  · rw [Tree.join, apart, apart, Text.byteLength_append, Nat.add_assoc]
    cases unroller.emit (used + (Text.byteLength text + Text.byteLength more)) rest <;> simp [Except.map]
  · exact apart used text _
  · exact apart used text _

namespace Spells

variable {afterClose : Bool} {text rest : Text} {tree : Tree} {first second : Unroller}

/-- What is read with references left alone is written alike whether or not references are named. -/
theorem emit_congr (spells : Spells Tree.Verbatim afterClose text tree rest)
    (ceiling : first.ceiling = second.ceiling) (limit : first.sizeLimit = second.sizeLimit) :
    ∀ used, first.emit used tree = second.emit used tree := by
  have repeated (copy : Text) (repetition : Option Repetition) :
      first.repeated copy repetition = second.repeated copy repetition := by
    cases repetition with
    | none => rfl
    | some bounds => rw [Unroller.repeated, Unroller.repeated, ceiling]
  have group {kind : GroupKind} {opening : Text} {body tree : Tree} {repetition : Option Repetition}
      (inside : ∀ used, first.emit used body = second.emit used body)
      (later : ∀ used, first.emit used tree = second.emit used tree) (used : Nat) :
      first.emit used (.group kind opening body repetition :: tree) =
        second.emit used (.group kind opening body repetition :: tree) := by
    rw [Unroller.emit, Unroller.emit, Unroller.emitPart_group, Unroller.emitPart_group, inside]
    simp only [repeated, limit, later]
  induction spells with
  | atEnd => exact fun used => by rw [Unroller.emit, Unroller.emit]
  | atCloser => exact fun used => by rw [Unroller.emit, Unroller.emit]
  | copied _ _ _ ih =>
    intro used
    rw [Unroller.emit_join_plain, Unroller.emit_join_plain, ih]
  | reference _ found _ ih =>
    obtain rfl := found
    intro used
    rw [Unroller.emit_join_plain, Unroller.emit_join_plain, ih]
  | bare _ _ _ _ ihBody ih => exact group ihBody ih
  | @quantified _ _ _ _ _ _ _ raw _ _ tree bounds _ _ _ _ _ ihBody ih =>
    cases bounds with
    | some repetition => exact group ihBody ih
    | none =>
      refine group ihBody fun used => ?_
      rw [Unroller.emit_join_plain, Unroller.emit_join_plain, ih]

end Spells

/-! ## Unrolling with two tables -/

/-- Tables that replace and name references alike, and agree on every name that is looked up, unroll a pattern
alike or refuse it for the same reason. With references left alone, tables need not agree on anything. -/
theorem unrollPattern_looks_up (pattern : Text) (ceiling : UInt64) (table other : AliasTable) :
    (table.replacing = true → other.replacing = true → table.naming = other.naming →
      (∀ name, table.LooksUp pattern name → table.get? name = other.get? name) →
      unrollPattern table ceiling pattern = unrollPattern other ceiling pattern) ∧
    (table.replacing = false → other.replacing = false →
      unrollPattern table ceiling pattern = unrollPattern other ceiling pattern) := by
  constructor
  · intro replacing replacing' naming agree
    have same : Tree.ofPattern table pattern = Tree.ofPattern other pattern := by
      refine Tree.ofPattern_congr fun name looksUp => ?_
      simp only [AliasTable.replacement?, replacing, replacing', if_true, agree name looksUp]
    rw [unrollPattern, unrollPattern, same, Unroller.ofTable, Unroller.ofTable, naming]
  · intro off off'
    have same : Tree.ofPattern table pattern = Tree.ofPattern other pattern :=
      Tree.ofPattern_eq_of_off off off'
    cases read : Tree.ofPattern table pattern with
    | error refusal => rw [unrollPattern, unrollPattern, ← same, read]; rfl
    | ok tree =>
      rw [unrollPattern_of_ofPattern read, unrollPattern_of_ofPattern (same.symm.trans read)]
      have spells := (Tree.ofPattern_eq_ok_iff_of_off off).mp read
      have written : ∀ used, (Unroller.ofTable table ceiling).emit used tree =
          (Unroller.ofTable other ceiling).emit used tree := spells.emit_congr rfl rfl
      exact written 0

/-- The aliases of `chain`, and one that refers to itself. -/
def chainAndLoop : AliasTable := ⟨chain.entries ++ [("z".toList, "(@z".toList)], true, false⟩

/-- A loop that no reference leads to, a name that neither table has, and tables that have nothing in common. -/
theorem unrollPattern_looks_up_chain :
    chain.replacing = true ∧ chainAndLoop.replacing = true ∧ chain.naming = chainAndLoop.naming ∧
    (∀ name, chain.LooksUp "@a@c".toList name → chain.get? name = chainAndLoop.get? name) ∧
    unrollPattern chain 1 "@a@c".toList = unrollPattern chainAndLoop 1 "@a@c".toList ∧
    AliasTable.empty.replacing = false ∧ (⟨chain.entries, false, true⟩ : AliasTable).replacing = false ∧
    unrollPattern .empty 1 "@a)".toList = unrollPattern ⟨chain.entries, false, true⟩ 1 "@a)".toList := by
  have whole : scanAll false "@a@c".toList = [.reference ['a'], .reference ['c'], .endOfInput] := by
    decide +kernel
  have bodies : ∀ text ∈ chain.entries.map Prod.snd, ∀ token ∈ scanAll false text,
      token ∈ [.opener .capturing ['('], .reference ['b'], .closer, .plain ['x'], .endOfInput] := by
    decide +kernel
  have agree (name : Text) (looksUp : chain.LooksUp "@a@c".toList name) :
      chain.get? name = chainAndLoop.get? name := by
    obtain ⟨text, reads, occurs⟩ := looksUp
    have listed : name ∈ [['a'], ['b'], ['c']] := by
      rcases reads.mem with rfl | member
      · rw [whole] at occurs
        simp only [List.mem_cons, Token.reference.injEq, reduceCtorEq, List.not_mem_nil, or_false] at occurs
        rcases occurs with rfl | rfl <;> decide
      · have listed := bodies text member _ occurs
        simp only [List.mem_cons, Token.reference.injEq, reduceCtorEq, List.not_mem_nil, or_false, false_or]
          at listed
        rw [listed]
        decide
    have each : ∀ name ∈ [['a'], ['b'], ['c']], chain.get? name = chainAndLoop.get? name := by decide
    exact each name listed
  refine ⟨rfl, rfl, rfl, agree, ?_, rfl, rfl, ?_⟩
  · exact (unrollPattern_looks_up _ 1 chain chainAndLoop).1 rfl rfl rfl agree
  · exact (unrollPattern_looks_up _ 1 .empty ⟨chain.entries, false, true⟩).2 rfl rfl

end GroupUnroll
