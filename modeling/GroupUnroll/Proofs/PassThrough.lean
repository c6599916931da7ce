import GroupUnroll.Proofs.Lookup
import GroupUnroll.Proofs.Seams

/-! # Patterns that pass through

Unrolling changes a pattern only where a quantifier states bounds and where a reference is replaced. A pattern
with neither is read into a settled tree, so what is written for it is the text that it was read from. Braces
without bounds, escapes, classes, comments and constructs that are unknown are text in such a tree.
-/

namespace GroupUnroll

/-- No quantifier among the tokens states bounds. -/
def Unbounded (tokens : List Token) : Prop :=
  ∀ raw position repetition, .quantifier raw ∈ tokens →
    Repetition.ofQuantifier raw position ≠ .ok (some repetition)

theorem Unbounded.atBounds {tokens : List Token} (unbounded : Unbounded tokens) :
    AtBounds (fun _ _ => False) tokens := by
  rintro before raw after repetition position rfl stated
  exact unbounded raw position repetition (by simp) stated

namespace Spells

variable {afterClose : Bool} {text rest : Text} {tree : Tree}

/-- Without bounds and without replaced references there is nothing to unroll. -/
theorem settled_of_unbounded (spells : Spells Tree.Verbatim afterClose text tree rest)
    (unbounded : AtBounds (fun _ _ => False) (scanAll afterClose text)) : tree.Settled := by
  have plain {run : Text} : (Part.plain run).Settled := by simp [Part.Settled]
  induction spells with
  | atEnd => exact Tree.settled_nil
  | atCloser => exact Tree.settled_nil
  | copied read isText _ ih =>
    obtain ⟨unfinished, unclosed, -⟩ := Token.isText_ne isText
    exact Tree.settled_join.mpr ⟨plain, ih (unbounded.next read unfinished unclosed)⟩
  | reference read found _ ih =>
    obtain rfl := found
    exact Tree.settled_join.mpr ⟨plain, ih (unbounded.next read (by simp) (by simp))⟩
  | bare read inner _ _ ihBody ih =>
    have within := unbounded.next read (by simp) (by simp)
    exact Tree.settled_cons.mpr ⟨⟨rfl, ihBody within⟩, ih (within.behind inner)⟩
  | @quantified _ _ _ _ _ _ _ raw _ _ _ bounds read inner quantifier stated _ ihBody ih =>
    have within := unbounded.next read (by simp) (by simp)
    have behind := within.behind inner
    have settled := ih (behind.next quantifier (by simp) (by simp))
    cases bounds with
    | none => exact Tree.settled_cons.mpr ⟨⟨rfl, ihBody within⟩, Tree.settled_join.mpr ⟨plain, settled⟩⟩
    | some repetition =>
      rw [scanAll_of_scan quantifier (by simp) (by simp)] at behind
      exact (behind [] raw _ repetition 0 rfl (stated 0)).elim

end Spells

/-- A pattern whose references are all unknown is read as it is with references left alone. -/
theorem Tree.ofPattern_of_unknown {table : AliasTable} {pattern : Text}
    (unknown : ∀ name, .reference name ∈ scanAll false pattern → table.get? name = none) :
    Tree.ofPattern table pattern = Tree.ofPattern (table.setReplacing false) pattern := by
  have nowhere {name body : Text} (leads : table.Leads pattern name body) : False := by
    rcases leads.starts with refers | ⟨_, _, refers, -⟩ <;>
      exact absurd (refers.2.symm.trans (unknown _ refers.1)) (by simp)
  refine Tree.ofPattern_congr fun name ⟨text, reads, occurs⟩ => ?_
  rcases reads with rfl | ⟨_, leads⟩
  · simp [AliasTable.replacement?, AliasTable.setReplacing, unknown name occurs]
  · exact (nowhere leads).elim

/-- A pattern that can be read, in which no quantifier states bounds and no reference is replaced, is what its
tree is unrolled to, under every ceiling and every size limit, and whether or not references are named. -/
theorem unroll_passes_through {table : AliasTable} {pattern : Text} {tree : Tree}
    (unreplaced : table.replacing = false ∨
      ∀ name, .reference name ∈ scanAll false pattern → table.get? name = none)
    (unbounded : Unbounded (scanAll false pattern)) (read : Tree.ofPattern table pattern = .ok tree) :
    (∀ unroller : Unroller, unroller.unroll tree = .ok pattern) ∧
      ∀ ceiling, unrollPattern table ceiling pattern = .ok pattern := by
  have alone : Tree.ofPattern (table.setReplacing false) pattern = .ok tree := by
    rw [← read]
    rcases unreplaced with off | unknown
    · exact Tree.ofPattern_eq_of_off rfl off
    · exact (Tree.ofPattern_of_unknown unknown).symm
  have spells := (Tree.ofPattern_eq_ok_iff_of_off rfl).mp alone
  have settled := spells.settled_of_unbounded unbounded.atBounds
  have source := spells.eq_source_of_settled settled
  rw [List.append_nil] at source
  have unrolled (unroller : Unroller) : unroller.unroll tree = .ok pattern := by
    rw [Unroller.unroll, Unroller.emit_of_settled _ settled, ← source]
  refine ⟨unrolled, fun ceiling => ?_⟩
  rw [unrollPattern_of_ofPattern read]
  exact unrolled _

/-- A class, a comment, flags, braces without bounds, an unknown construct, a reference, an escape, a lone at sign
and a backslash at the end. -/
def mixture : Text := "(é[^])](?#()(?i))\x7b \x7d(?|@e)\x7b\x7d\\)@\\".toList

/-- The table replaces references, but has no alias of that name. -/
theorem unroll_passes_through_mixture :
    (∀ name, .reference name ∈ scanAll false mixture → digitAlias.get? name = none) ∧
    Unbounded (scanAll false mixture) ∧
    ∃ tree, Tree.ofPattern digitAlias mixture = .ok tree ∧
      (∀ unroller : Unroller, unroller.unroll tree = .ok mixture) ∧
      unrollPattern digitAlias 0 mixture = .ok mixture := by
  have tokens : scanAll false mixture =
      [.opener .capturing ['('], .plain "é[^])]".toList, .plain "(?#()".toList, .plain "(?i)".toList, .closer,
        .quantifier "\x7b \x7d".toList, .opener .other "(?".toList, .plain ['|'], .reference ['e'], .closer,
        .quantifier "\x7b\x7d".toList, .escape ')', .plain ['@'], .plain ['\\'], .endOfInput] := by
    decide +kernel
  have unknown (name : Text) (occurs : .reference name ∈ scanAll false mixture) : digitAlias.get? name = none := by
    rw [tokens] at occurs
    obtain rfl : name = ['e'] := by simpa using occurs
    decide
  have unbounded : Unbounded (scanAll false mixture) := by
    intro raw position repetition member stated
    rw [tokens] at member
    have stated := Repetition.ofQuantifier_position stated 0
    have blank : raw = "\x7b \x7d".toList ∨ raw = "\x7b\x7d".toList := by simpa using member
    rcases blank with rfl | rfl <;> cases stated
  have readable : (Tree.ofPattern digitAlias mixture).isOk = true := by decide +kernel
  obtain ⟨tree, read⟩ := exists_eq_ok readable
  obtain ⟨unrolled, passes⟩ := unroll_passes_through (.inr unknown) unbounded read
  exact ⟨unknown, unbounded, tree, read, unrolled, passes 0⟩

end GroupUnroll
