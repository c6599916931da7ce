import GroupUnroll.Proofs.Expansion
import GroupUnroll.Proofs.References

/-! # Unrolled trees

`Tree.unrolled` writes a tree out as a tree: a group with bounds becomes its copies, and an optional copy
is a group with a question mark after it. Nothing is left to unroll in such a tree. Unrolling it is
spelling it, and it is spelled by one text only.
-/

namespace GroupUnroll

/-- The parts in order, with runs of plain text that meet joined. -/
def Tree.merged (parts : List Part) : Tree := parts.foldr join []

/-- What one copy of a group becomes. -/
def Part.repeated (ceiling : UInt64) (group : Part) : Option Repetition → List Part
  | none => [group]
  | some repetition =>
    List.replicate repetition.min.toNat group ++
      (List.replicate (repetition.optionalCount ceiling).toNat [group, .plain ['?']]).flatten

mutual

/-- The parts that one part is unrolled to. -/
def Part.unrolledParts (ceiling : UInt64) : Part → List Part
  | .plain text => [.plain text]
  | .group kind opening body repetition =>
    Part.repeated ceiling (.group kind opening (Tree.merged (Tree.unrolledParts ceiling body)) none)
      repetition
  | .reference name body => [.reference name (Tree.merged (Tree.unrolledParts ceiling body))]

/-- The parts that a tree is unrolled to. -/
def Tree.unrolledParts (ceiling : UInt64) : Tree → List Part
  | [] => []
  | part :: rest => Part.unrolledParts ceiling part ++ Tree.unrolledParts ceiling rest

end

/-- The tree with every group unrolled, at every depth. -/
def Tree.unrolled (ceiling : UInt64) (tree : Tree) : Tree := merged (unrolledParts ceiling tree)

mutual

/-- Whether a part has no bounds and no reference in it. -/
def Part.Settled : Part → Prop
  | .plain _ => True
  | .group _ _ body repetition => repetition = none ∧ Tree.Settled body
  | .reference _ _ => False

/-- Whether a tree has no bounds and no reference in it. -/
def Tree.Settled : Tree → Prop
  | [] => True
  | part :: rest => Part.Settled part ∧ Tree.Settled rest

end

namespace Tree

variable {ceiling : UInt64} {part : Part} {tree body : Tree} {parts : List Part} {text : Text}

@[simp] theorem settled_nil : Settled [] := by simp [Settled]

@[simp] theorem settled_cons : Settled (part :: tree) ↔ part.Settled ∧ Settled tree := by simp [Settled]

theorem join_plain_plain (first second : Text) (tree : Tree) :
    join (.plain first) (join (.plain second) tree) = join (.plain (first ++ second)) tree := by
  rcases tree with _ | ⟨_ | _ | _, rest⟩ <;> simp [join]

theorem settled_join : Settled (join part tree) ↔ part.Settled ∧ Settled tree := by
  unfold join
  split <;> simp [Part.Settled]

theorem merged_append (first second : List Part) :
    merged (first ++ second) = first.foldr join (merged second) := by
  rw [merged, List.foldr_append]
  rfl

theorem unrolled_cons : unrolled ceiling (part :: tree) =
    (part.unrolledParts ceiling).foldr join (unrolled ceiling tree) := by
  rw [unrolled, unrolledParts, merged_append]
  rfl

theorem unrolled_plain : unrolled ceiling (.plain text :: tree) =
    join (.plain text) (unrolled ceiling tree) := by
  rw [unrolled_cons, Part.unrolledParts]
  rfl

/-- Plain text stays what it is. -/
theorem unrolled_join_plain : unrolled ceiling (join (.plain text) tree) =
    join (.plain text) (unrolled ceiling tree) := by
  rcases tree with _ | ⟨_ | _ | _, rest⟩
  · exact unrolled_plain
  · rw [join, unrolled_plain, unrolled_plain, join_plain_plain]
  · exact unrolled_plain
  · exact unrolled_plain

theorem unrolled_group {kind : GroupKind} {opening : Text} {repetition : Option Repetition} :
    unrolled ceiling (.group kind opening body repetition :: tree) =
      (Part.repeated ceiling (.group kind opening (unrolled ceiling body) none) repetition).foldr join
        (unrolled ceiling tree) := by
  rw [unrolled_cons, Part.unrolledParts]
  rfl

theorem settled_foldr_join (settled : ∀ part ∈ parts, part.Settled) (rest : Settled tree) :
    Settled (parts.foldr join tree) := by
  induction parts with
  | nil => exact rest
  | cons part parts ih =>
    rw [List.foldr_cons, settled_join]
    exact ⟨settled part (List.mem_cons_self ..), ih fun part member =>
      settled part (List.mem_cons_of_mem _ member)⟩

end Tree

theorem Part.settled_repeated {ceiling : UInt64} {group : Part} {repetition : Option Repetition}
    (settled : group.Settled) : ∀ part ∈ Part.repeated ceiling group repetition, part.Settled := by
  have mark : (Part.plain ['?']).Settled := by simp [Part.Settled]
  cases repetition with
  | none => simpa [Part.repeated] using settled
  | some repetition =>
    intro part member
    simp only [Part.repeated, List.mem_append, List.mem_replicate, List.mem_flatten] at member
    rcases member with ⟨-, rfl⟩ | ⟨copy, ⟨-, rfl⟩, member⟩
    · exact settled
    · simp only [List.mem_cons, List.not_mem_nil, or_false] at member
      rcases member with rfl | rfl
      · exact settled
      · exact mark

/-- A settled tree is unrolled to its spelling, whatever is in the buffer. -/
theorem Unroller.emit_of_settled {unroller : Unroller} (tree : Tree) : tree.Settled →
    ∀ used, unroller.emit used tree = .ok (Tree.source tree) := by
  induction tree using Tree.induct with
  | nil =>
    intro _ used
    rw [emit, Tree.source_nil]
  | plain text rest ih =>
    intro settled used
    rw [Tree.settled_cons] at settled
    exact emit_cons_eq_ok.mpr ⟨text, _, by rw [emitPart], ih settled.2 _, by simp [Part.source]⟩
  | group kind opening body repetition rest ihBody ih =>
    intro settled used
    rw [Tree.settled_cons, Part.Settled] at settled
    obtain ⟨⟨rfl, inside⟩, after⟩ := settled
    refine emit_cons_eq_ok.mpr ⟨opening ++ (Tree.source body ++ [')']), _, ?_, ih after _, ?_⟩
    · exact emitPart_group_eq_ok.mpr ⟨_, ihBody inside _, by simp, rfl⟩
    · simp [Part.source, quantifierSource]
  | reference name body rest ihBody ih =>
    intro settled used
    rw [Tree.settled_cons, Part.Settled] at settled
    exact absurd settled.1 id

namespace Spells

variable {afterClose : Bool} {text rest : Text} {tree : Tree}

/-- A tree that is read without replacing references has nothing left to unroll once it is unrolled. -/
theorem settled_unrolled (ceiling : UInt64) (spells : Spells Tree.Verbatim afterClose text tree rest) :
    (Tree.unrolled ceiling tree).Settled := by
  have plain {run : Text} {tree : Tree} (settled : (Tree.unrolled ceiling tree).Settled) :
      (Tree.unrolled ceiling (Tree.join (.plain run) tree)).Settled := by
    rw [Tree.unrolled_join_plain, Tree.settled_join]
    exact ⟨by simp [Part.Settled], settled⟩
  have group {kind : GroupKind} {opening : Text} {body tree : Tree} {repetition : Option Repetition}
      (inside : (Tree.unrolled ceiling body).Settled) (settled : (Tree.unrolled ceiling tree).Settled) :
      (Tree.unrolled ceiling (.group kind opening body repetition :: tree)).Settled := by
    rw [Tree.unrolled_group]
    exact Tree.settled_foldr_join (Part.settled_repeated ⟨rfl, inside⟩) settled
  induction spells with
  | atEnd => simp [Tree.unrolled, Tree.unrolledParts, Tree.merged]
  | atCloser => simp [Tree.unrolled, Tree.unrolledParts, Tree.merged]
  | copied _ _ _ ih => exact plain ih
  | reference _ found _ ih =>
    obtain rfl := found
    exact plain ih
  | bare _ _ _ _ ihBody ih => exact group ihBody ih
  | @quantified _ _ _ _ _ _ _ _ _ _ _ bounds _ _ _ _ _ ihBody ih =>
    cases bounds with
    | none => exact group ihBody (plain ih)
    | some repetition => exact group ihBody ih

/-- The text that a settled tree is read from is its spelling. -/
theorem eq_source_of_settled (spells : Spells Tree.Verbatim afterClose text tree rest)
    (settled : tree.Settled) : text = Tree.source tree ++ rest := by
  induction spells with
  | atEnd => rfl
  | atCloser => simp
  | copied read isText _ ih =>
    rw [Tree.settled_join] at settled
    obtain rfl := source_append_of_scan read
    rw [ih settled.2, Tree.source_join, List.append_assoc, Part.source]
  | @reference _ _ _ _ name part _ read found _ ih =>
    obtain rfl : part = .plain ('@' :: name) := found
    rw [Tree.settled_join] at settled
    obtain rfl := source_append_of_scan read
    rw [ih settled.2, Tree.source_join, List.append_assoc, Part.source, Token.source]
  | bare read _ _ _ ihBody ih =>
    rw [Tree.settled_cons, Part.Settled] at settled
    obtain rfl := source_append_of_scan read
    rw [ihBody settled.1.2, ih settled.2]
    simp [Part.source, quantifierSource, Token.source]
  | @quantified _ _ _ _ _ _ _ _ _ _ _ bounds read _ quantifier _ _ ihBody ih =>
    cases bounds with
    | none =>
      rw [Tree.quantify, Tree.settled_cons, Part.Settled, Tree.settled_join] at settled
      obtain rfl := source_append_of_scan read
      rw [ihBody settled.1.2, ← source_append_of_scan quantifier, ih settled.2.2]
      simp [Tree.quantify, Tree.source_join, Part.source, quantifierSource, Token.source]
    | some repetition =>
      rw [Tree.quantify, Tree.settled_cons, Part.Settled] at settled
      exact absurd settled.1.1 (by simp)

end Spells

end GroupUnroll
