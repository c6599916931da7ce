import GroupUnroll.Proofs.Expansion
import GroupUnroll.Proofs.Registration
import GroupUnroll.Proofs.Resolution
import GroupUnroll.Proofs.RoundTrip
import Mathlib.Data.List.TakeWhile

/-! # References and their bodies alone

The body of an alias is read on the path that led to it, and with less depth left than a pattern has. Both can
only refuse a reference, never change what it stands for, so what is read there is read the same with fewer names
on the path and with more depth. Hence every reference in a tree, wherever it stands, holds the tree that its body
has as a pattern of its own.

The other direction needs a reason: a body that can be read alone might meet its own alias on the path. A
body that leads back to its own alias cannot be read alone either, though, so a pattern that is nothing but a
reference is read exactly if its body is.
-/

namespace GroupUnroll

/-! ## References in a tree -/

/-- A reference with the tree of its body stands somewhere in a tree: among its parts, in a group, or in the body of
another reference. -/
inductive Tree.Mentions (name : Text) (inner : Tree) : Tree → Prop
  | here {tree : Tree} (member : .reference name inner ∈ tree) : Mentions name inner tree
  | inGroup {tree body : Tree} {kind : GroupKind} {opening : Text} {repetition : Option Repetition}
      (member : .group kind opening body repetition ∈ tree) (inside : Mentions name inner body) :
      Mentions name inner tree
  | inReference {tree body : Tree} {other : Text} (member : .reference other body ∈ tree)
      (inside : Mentions name inner body) : Mentions name inner tree

namespace Tree.Mentions

variable {name other : Text} {inner body tree first second : Tree} {part : Part} {kind : GroupKind}
  {opening : Text} {repetition : Option Repetition}

theorem mono (mentions : Mentions name inner first) (wider : first ⊆ second) : Mentions name inner second := by
  cases mentions with
  | here member => exact .here (wider member)
  | inGroup member inside => exact .inGroup (wider member) inside
  | inReference member inside => exact .inReference (wider member) inside

theorem of_cons (mentions : Mentions name inner (part :: tree)) :
    Mentions name inner [part] ∨ Mentions name inner tree := by
  have split {found : Part} (member : found ∈ part :: tree) : found ∈ [part] ∨ found ∈ tree := by
    simpa using member
  cases mentions with
  | here member => exact (split member).imp .here .here
  | inGroup member inside => exact (split member).imp (.inGroup · inside) (.inGroup · inside)
  | inReference member inside => exact (split member).imp (.inReference · inside) (.inReference · inside)

theorem of_group (mentions : Mentions name inner [.group kind opening body repetition]) :
    Mentions name inner body := by
  cases mentions with
  | here member => simp at member
  | inGroup member inside =>
    simp only [List.mem_singleton, Part.group.injEq] at member
    obtain ⟨-, -, rfl, -⟩ := member
    exact inside
  | inReference member inside => simp at member

theorem not_plain {text : Text} : ¬ Mentions name inner [.plain text] := by
  intro mentions
  cases mentions with
  | here member => simp at member
  | inGroup member inside => simp at member
  | inReference member inside => simp at member

theorem not_nil : ¬ Mentions name inner [] := by
  intro mentions
  cases mentions with
  | here member => simp at member
  | inGroup member inside => simp at member
  | inReference member inside => simp at member

/-- A mention in the tree of a reference is that reference, or stands in its body. -/
theorem of_reference (mentions : Mentions name inner [.reference other body]) :
    (name = other ∧ inner = body) ∨ Mentions name inner body := by
  cases mentions with
  | here member => exact .inl (by simpa using member)
  | inGroup member inside => simp at member
  | inReference member inside =>
    simp only [List.mem_singleton, Part.reference.injEq] at member
    obtain ⟨-, rfl⟩ := member
    exact .inr inside

/-- Joined plain text holds no reference. -/
theorem of_join (mentions : Mentions name inner (join part tree)) :
    Mentions name inner [part] ∨ Mentions name inner tree := by
  unfold join at mentions
  split at mentions
  · rcases mentions.of_cons with plain | later
    · exact absurd plain not_plain
    · exact .inr (later.mono (List.subset_cons_self _ _))
  · exact mentions.of_cons

end Tree.Mentions

/-- A reference in a spelled tree stands in a part that some reference of the text means. -/
theorem Spells.exists_means {means : Text → Part → Prop} {afterClose : Bool} {text rest name : Text}
    {tree inner : Tree} (spells : Spells means afterClose text tree rest)
    (mentions : Tree.Mentions name inner tree) :
    ∃ other part, means other part ∧ Tree.Mentions name inner [part] := by
  induction spells with
  | atEnd => exact absurd mentions Tree.Mentions.not_nil
  | atCloser => exact absurd mentions Tree.Mentions.not_nil
  | copied _ _ _ ih =>
    rcases mentions.of_join with plain | later
    · exact absurd plain Tree.Mentions.not_plain
    · exact ih later
  | reference _ found _ ih =>
    rcases mentions.of_join with here | later
    · exact ⟨_, _, found, here⟩
    · exact ih later
  | bare _ _ _ _ ihBody ih =>
    rcases mentions.of_cons with group | later
    · exact ihBody group.of_group
    · exact ih later
  | @quantified _ _ _ _ _ _ _ _ _ _ _ bounds _ _ _ _ _ ihBody ih =>
    cases bounds with
    | some repetition =>
      rcases mentions.of_cons with group | later
      · exact ihBody group.of_group
      · exact ih later
    | none =>
      rcases mentions.of_cons with group | later
      · exact ihBody group.of_group
      · rcases later.of_join with plain | later
        · exact absurd plain Tree.Mentions.not_plain
        · exact ih later

/-! ## Fewer names and more depth -/

namespace Reader

variable {table : AliasTable} {path fewer : AliasPath} {depth deeper : Nat} {text name : Text} {tree : Tree}
  {part : Part}

/-- With fewer names on the path and more depth, a reference still means what it means. -/
theorem meansWithin_mono (subset : fewer.names ⊆ path.names) (deep : depth ≤ deeper)
    (means : MeansWithin table depth path name part) : MeansWithin table deeper fewer name part := by
  induction depth generalizing deeper path fewer name part with
  | zero =>
    cases known : table.replacement? name with
    | none => exact (meansWithin_of_unknown known).mpr ((meansWithin_of_unknown known).mp means)
    | some body => exact absurd means (not_meansWithin_zero known)
  | succ depth ih =>
    cases known : table.replacement? name with
    | none => exact (meansWithin_of_unknown known).mpr ((meansWithin_of_unknown known).mp means)
    | some body =>
      obtain ⟨less, rfl⟩ : ∃ less, deeper = less + 1 := ⟨deeper - 1, by omega⟩
      obtain ⟨fresh, tree, read, rfl⟩ := (meansWithin_succ known).mp means
      refine (meansWithin_succ known).mpr ⟨fun again => fresh (subset again), tree, ?_, rfl⟩
      rw [answer_readWithin_eq_ok_iff] at read ⊢
      refine read.mono fun other part => ih ?_ (by omega)
      exact List.append_subset.mpr
        ⟨List.Subset.trans subset (List.subset_append_left _ _), List.subset_append_right _ _⟩

/-- A text that is read is read the same with fewer names on the path and more depth. -/
theorem answer_readWithin_mono (subset : fewer.names ⊆ path.names) (deep : depth ≤ deeper)
    (read : (readWithin table depth (ofPattern text) path).answer = .ok tree) :
    (readWithin table deeper (ofPattern text) fewer).answer = .ok tree := by
  rw [answer_readWithin_eq_ok_iff] at read ⊢
  exact read.mono fun other part => meansWithin_mono subset deep

theorem ofPattern_of_readWithin (deep : depth ≤ table.size)
    (read : (readWithin table depth (ofPattern text) path).answer = .ok tree) :
    Tree.ofPattern table text = .ok tree :=
  answer_readWithin_mono (List.nil_subset _) deep read

/-- A reference in a tree that was read stands in what a known alias was read as, one alias deeper. -/
theorem exists_body_of_mentions {inner : Tree}
    (read : (readWithin table depth (ofPattern text) path).answer = .ok tree)
    (mentions : Tree.Mentions name inner tree) :
    ∃ less other body entered resolved, depth = less + 1 ∧ table.replacement? other = some body ∧
      (readWithin table less (ofPattern body) entered).answer = .ok resolved ∧
      Tree.Mentions name inner [.reference other resolved] := by
  obtain ⟨other, part, means, within⟩ := (answer_readWithin_eq_ok_iff.mp read).exists_means mentions
  cases known : table.replacement? other with
  | none =>
    obtain rfl := (meansWithin_of_unknown known).mp means
    exact absurd within Tree.Mentions.not_plain
  | some body =>
    cases depth with
    | zero => exact absurd means (not_meansWithin_zero known)
    | succ less =>
      obtain ⟨-, resolved, read, rfl⟩ := (meansWithin_succ known).mp means
      exact ⟨less, other, body, _, resolved, rfl, known, read, within⟩

/-- Every reference in a tree holds the tree of its body alone. -/
theorem holds_body {inner : Tree} (deep : depth ≤ table.size)
    (read : (readWithin table depth (ofPattern text) path).answer = .ok tree)
    (mentions : Tree.Mentions name inner tree) :
    ∃ body, table.replacement? name = some body ∧ Tree.ofPattern table body = .ok inner := by
  induction depth using Nat.strongRecOn generalizing text path tree with
  | ind depth ih =>
    obtain ⟨less, other, body, entered, resolved, rfl, known, read, within⟩ := exists_body_of_mentions read mentions
    rcases within.of_reference with ⟨rfl, rfl⟩ | inside
    · exact ⟨body, known, ofPattern_of_readWithin (by omega) read⟩
    · exact ih less (Nat.lt_succ_self less) (by omega) read inside

end Reader

/-! ## A reference alone -/

section Alone

variable {table : AliasTable} {path : AliasPath} {name body : Text} {tree : Tree}

/-- A body that resolves does so with its own alias on the path as well: it does not lead back to it. -/
theorem Resolves.enter (resolves : Resolves table path body) (known : table.get? name = some body) :
    Resolves table ⟨path.names ++ [name]⟩ body := by
  refine ⟨resolves.readable, resolves.bodies, ?_, resolves.acyclic⟩
  intro other text leads member
  rcases List.mem_append.mp member with before | last
  · exact resolves.fresh other text leads before
  · obtain rfl := List.mem_singleton.mp last
    obtain rfl := Option.some.inj (leads.known.symm.trans known)
    exact resolves.acyclic other text leads leads

theorem scan_reference (referable : AliasTable.isReferable name = true) :
    scan false ('@' :: name) = (.reference name, []) := by
  obtain ⟨nonempty, letters⟩ := Bool.and_eq_true_iff.mp referable
  have all : ∀ c ∈ name, isAliasChar c = true := List.all_eq_true.mp letters
  have taken : name.takeWhile isAliasChar = name := List.takeWhile_eq_self_iff.mpr all
  have dropped : name.dropWhile isAliasChar = [] := List.dropWhile_eq_nil_iff.mpr all
  cases name with
  | nil => exact absurd nonempty (by decide)
  | cons c rest =>
    change scanReference (c :: rest) = _
    simp only [scanReference, taken, dropped]

theorem Spells.eq_nil {means : Text → Part → Prop} {afterClose : Bool} {rest : Text}
    (spells : Spells means afterClose [] tree rest) : tree = [] := by
  have ended {token : Token} {next : Text} (read : scan afterClose [] = (token, next)) :
      token = .endOfInput := (congrArg Prod.fst read).symm
  cases spells with
  | atEnd => rfl
  | copied read isText => exact absurd (ended read) (Token.isText_ne isText).1
  | reference read => cases ended read
  | bare read => cases ended read
  | quantified read => cases ended read

/-- A text that is nothing but a reference spells what the reference means. -/
theorem spells_reference_iff {means : Text → Part → Prop} (referable : AliasTable.isReferable name = true) :
    Spells means false ('@' :: name) tree [] ↔ ∃ part, means name part ∧ tree = [part] := by
  have alone := scan_reference referable
  have joined (part : Part) : Tree.join part [] = [part] := by cases part <;> rfl
  constructor
  · intro spells
    cases spells with
    | copied read isText =>
      rw [alone] at read
      obtain ⟨rfl, -⟩ := Prod.mk.inj read
      exact absurd isText (by simp [Token.isText])
    | reference read found more =>
      rw [alone] at read
      obtain ⟨same, rfl⟩ := Prod.mk.inj read
      obtain rfl := Token.reference.inj same
      obtain rfl := more.eq_nil
      exact ⟨_, found, joined _⟩
    | bare read => cases alone.symm.trans read
    | quantified read => cases alone.symm.trans read
  · rintro ⟨part, found, rfl⟩
    rw [← joined part]
    exact .reference alone found .atEnd

/-- A reference alone is read exactly if its body is, and holds the tree of its body. -/
theorem Tree.ofPattern_reference_iff (referable : AliasTable.isReferable name = true)
    (replacing : table.replacing = true) (known : table.get? name = some body) :
    Tree.ofPattern table ('@' :: name) = .ok tree ↔
      ∃ inner, Tree.ofPattern table body = .ok inner ∧ tree = [.reference name inner] := by
  have replaced : table.replacement? name = some body := by simp [AliasTable.replacement?, replacing, known]
  have listed : 0 < table.size := List.length_pos_of_mem (AliasTable.mem_entries_of_get? known)
  obtain ⟨less, size⟩ : ∃ less, table.size = less + 1 := ⟨table.size - 1, by omega⟩
  rw [Tree.ofPattern_eq_ok_iff, spells_reference_iff referable, Tree.Means, size]
  simp only [Reader.meansWithin_succ replaced]
  have fresh : name ∉ AliasPath.empty.names := List.not_mem_nil
  constructor
  · rintro ⟨part, ⟨-, inner, read, rfl⟩, rfl⟩
    exact ⟨inner, Reader.ofPattern_of_readWithin (by omega) read, rfl⟩
  · rintro ⟨inner, read, rfl⟩
    have within := (AliasPath.within_empty table).enter known fresh
    have alone : Resolves table .empty body :=
      (exists_read_iff_resolves replacing (AliasPath.within_empty table) (Nat.le_add_right _ _)).mp ⟨inner, read⟩
    have deep : table.size ≤ less + AliasPath.length ⟨AliasPath.empty.names ++ [name]⟩ := by
      rw [AliasPath.length_enter]
      omega
    obtain ⟨other, again⟩ := (exists_read_iff_resolves replacing within deep).mpr (alone.enter known)
    have same := (Reader.ofPattern_of_readWithin (by omega) again).symm.trans read
    obtain rfl := Except.ok.inj same
    exact ⟨_, ⟨fresh, other, again, rfl⟩, rfl⟩

/-- Without names, a reference is written as its body is. -/
theorem Unroller.unroll_reference {unroller : Unroller} (off : unroller.naming = false) :
    unroller.unroll [.reference name tree] = unroller.unroll tree := by
  have written : unroller.emit 0 [.reference name tree] =
      (unroller.emitPart 0 (.reference name tree) >>= fun text => .ok (text ++ [])) := by
    simp only [emit]
    rfl
  rw [unroll, unroll, written, emitPart_unnamed off]
  cases unroller.emit 0 tree with
  | error refusal => rfl
  | ok text => exact congrArg Except.ok (List.append_nil text)

end Alone

/-- References agree with reading their bodies alone. Each reference in a tree, at whatever depth, is to an alias
whose body has the tree it holds. A text that is read on a path of aliases is read the same on every path with
no other names. And with references not named, a reference to an alias and the body of the alias are
unrolled to the same text. -/
theorem references_hold_bodies (table : AliasTable) :
    (∀ pattern tree, Tree.ofPattern table pattern = .ok tree →
      ∀ name inner, Tree.Mentions name inner tree →
        ∃ body, table.replacement? name = some body ∧ Tree.ofPattern table body = .ok inner) ∧
    (∀ text path fewer tree, fewer.names ⊆ path.names →
      ((Reader.ofPattern text).read table path).answer = .ok tree →
        ((Reader.ofPattern text).read table fewer).answer = .ok tree) ∧
    (table.Built → table.replacing = true → table.naming = false →
      ∀ name body ceiling unrolled, table.get? name = some body →
        (unrollPattern table ceiling ('@' :: name) = .ok unrolled ↔
          unrollPattern table ceiling body = .ok unrolled)) := by
  refine ⟨?_, ?_, ?_⟩
  · intro pattern tree read name inner mentions
    exact Reader.holds_body (Nat.le_refl _) read mentions
  · intro text path fewer tree subset read
    exact Reader.answer_readWithin_mono subset (Nat.le_refl _) read
  · intro built replacing unnamed name body ceiling unrolled known
    have referable := built.isReferable_of_mem (AliasTable.mem_entries_of_get? known)
    have off : (Unroller.ofTable table ceiling).naming = false := unnamed
    simp only [unrollPattern, bind_eq_ok, Tree.ofPattern_reference_iff referable replacing known]
    constructor
    · rintro ⟨_, ⟨inner, read, rfl⟩, written⟩
      exact ⟨inner, read, Unroller.unroll_reference off ▸ written⟩
    · rintro ⟨inner, read, written⟩
      exact ⟨_, ⟨inner, read, rfl⟩, (Unroller.unroll_reference off).trans written⟩

/-- The tree of two references, one of them within groups: its body refers to the alias of the other. -/
def nestedMention : Tree :=
  [.group .capturing ['(']
    [.reference ['a'] [.group .capturing ['('] [.reference ['b'] [.plain ['x']]] none]] (some ⟨0, .unbounded⟩),
    .reference ['b'] [.plain ['x']]]

/-- A reference in a group in a body in a group, and a path with a name that no table has. -/
theorem references_hold_bodies_chain :
    Tree.ofPattern chain "(@a)*@b".toList = .ok nestedMention ∧
    Tree.Mentions ['b'] [.plain ['x']] nestedMention ∧
    (∃ body, chain.replacement? ['b'] = some body ∧ Tree.ofPattern chain body = .ok [.plain ['x']]) ∧
    ((Reader.ofPattern "@b".toList).read chain ⟨[['q'], ['a']]⟩).answer = .ok [.reference ['b'] [.plain ['x']]] ∧
    ((Reader.ofPattern "@b".toList).read chain ⟨[['q']]⟩).answer = .ok [.reference ['b'] [.plain ['x']]] ∧
    chain.Built ∧ chain.replacing = true ∧ chain.naming = false ∧ chain.get? ['a'] = some "(@b)".toList ∧
    unrollPattern chain 0 "(@b)".toList = .ok "(x)".toList ∧
    unrollPattern chain 0 "@a".toList = .ok "(x)".toList := by
  obtain ⟨holds, fewer, alone⟩ := references_hold_bodies chain
  have read : Tree.ofPattern chain "(@a)*@b".toList = .ok nestedMention := by with_unfolding_all rfl
  have mentions : Tree.Mentions ['b'] [.plain ['x']] nestedMention :=
    .inGroup (List.mem_cons_self ..) (.inReference (List.mem_singleton.mpr rfl)
      (.inGroup (List.mem_singleton.mpr rfl) (.here (List.mem_singleton.mpr rfl))))
  have behind : ((Reader.ofPattern "@b".toList).read chain ⟨[['q'], ['a']]⟩).answer =
      .ok [.reference ['b'] [.plain ['x']]] := by
    with_unfolding_all rfl
  have subset : [['q']] ⊆ [['q'], ['a']] := by decide
  have one : AliasTable.insert (AliasTable.empty.setReplacing true) ['b'] ['x'] =
      .ok ⟨[(['b'], ['x'])], true, false⟩ := rfl
  have two : AliasTable.insert ⟨[(['b'], ['x'])], true, false⟩ ['a'] "(@b)".toList = .ok chain := by decide
  have built : chain.Built := .insert (.insert (.setReplacing .empty true) one) two
  have known : chain.get? ['a'] = some "(@b)".toList := by decide
  have unrolled : unrollPattern chain 0 "(@b)".toList = .ok "(x)".toList := by decide +kernel
  exact ⟨read, mentions, holds _ _ read _ _ mentions, behind, fewer _ _ _ _ subset behind, built, rfl, rfl, known,
    unrolled, (alone built rfl rfl _ _ _ _ known).mpr unrolled⟩

end GroupUnroll
