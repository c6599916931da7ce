import GroupUnroll.Alias.Table

/-! # Names that can be referred to

A table is only changed by its operations, and the one operation that adds a name first asks whether a reference
can spell it. So in every table that operations lead to, each name is one that can be read behind an at sign.
-/

namespace GroupUnroll

namespace AliasTable

/-- The tables that operations lead to. -/
inductive Built : AliasTable → Prop
  | empty : Built .empty
  | insert {table later : AliasTable} {name body : Text} (built : Built table)
      (inserted : table.insert name body = .ok later) : Built later
  | erase {table : AliasTable} (built : Built table) (name : Text) : Built (table.erase name)
  | clear {table : AliasTable} (built : Built table) : Built table.clear
  | setReplacing {table : AliasTable} (built : Built table) (enabled : Bool) :
      Built (table.setReplacing enabled)
  | setNaming {table : AliasTable} (built : Built table) (enabled : Bool) : Built (table.setNaming enabled)

/-- An entry is either the one that was set, or was there before. -/
theorem mem_insertEntry {name body : Text} {entries : List (Text × Text)} {entry : Text × Text}
    (member : entry ∈ insertEntry name body entries) : entry = (name, body) ∨ entry ∈ entries := by
  induction entries with
  | nil => exact .inl (List.mem_singleton.mp member)
  | cons first rest ih =>
    rw [insertEntry] at member
    split at member
    · exact List.mem_cons.mp member
    split at member
    · rcases List.mem_cons.mp member with set | later
      · exact .inl set
      · exact .inr (List.mem_cons_of_mem _ later)
    · rcases List.mem_cons.mp member with here | later
      · exact .inr (here ▸ List.mem_cons_self ..)
      · exact (ih later).imp_right (List.mem_cons_of_mem _)

/-- What is inserted has a name that can be referred to, and stands among the entries. -/
theorem insert_eq_ok {table later : AliasTable} {name body : Text} :
    table.insert name body = .ok later ↔
      isReferable name = true ∧ later = { table with entries := insertEntry name body table.entries } := by
  unfold insert
  split
  · rename_i referable
    simp only [Except.ok.injEq, referable, true_and]
    exact eq_comm
  · rename_i unspelled
    simp [unspelled]

theorem Built.isReferable_of_mem {table : AliasTable} (built : table.Built) {entry : Text × Text}
    (member : entry ∈ table.entries) : isReferable entry.1 = true := by
  induction built with
  | empty => exact absurd member List.not_mem_nil
  | insert _ inserted ih =>
    obtain ⟨referable, rfl⟩ := insert_eq_ok.mp inserted
    rcases mem_insertEntry member with rfl | before
    · exact referable
    · exact ih before
  | erase _ name ih => exact ih (List.mem_filter.mp member).1
  | clear => exact absurd member List.not_mem_nil
  | setReplacing _ _ ih => exact ih member
  | setNaming _ _ ih => exact ih member

end AliasTable

end GroupUnroll
