import GroupUnroll.Proofs.OpenerRule
import GroupUnroll.Proofs.SelfContained

/-! # Trees in canonical form

A tree that was read holds no empty text and no two texts side by side, its openers and references are ones that
can be read, and text at the end of a group consists of whole tokens. All of this holds at each level of the tree: among
its own parts, in every group, and in the body of every reference.

Parts are put before a tree by `Tree.join`, so the form is kept part by part. That text at the end of a group is whole
does not follow in this way, as it is about the tokens the text was read from. But the last text of a tree is spelled
on its own by the end of what spells the tree, and a text that is spelled before a closing parenthesis is read again
before any other.
-/

namespace GroupUnroll

/-! ## Levels -/

/-- The tree within a part, if there is one. -/
def Part.inner? : Part → Option Tree
  | .plain _ => none
  | .group _ _ body _ => some body
  | .reference _ body => some body

/-- The trees that a tree consists of: the tree itself, and those within its parts at any depth. -/
inductive Tree.HasLevel (level : Tree) : Tree → Prop
  | here : HasLevel level level
  | within {tree body : Tree} {part : Part} (member : part ∈ tree) (inner : part.inner? = some body)
      (inside : HasLevel level body) : HasLevel level tree

/-- A text that consists of whole tokens: before a closing parenthesis these are the tokens that are read. -/
def Text.Whole (text : Text) : Prop :=
  ∃ tokens, (Cursor.start (text ++ [')'])).tokens = tokens ++ [.closer, .endOfInput] ∧
    tokens.flatMap Token.source = text

/-- A part that can be read: text that is not empty, a group whose opener is one and whose last text is whole, or a
reference to an alias that the table replaces. -/
def Part.Canonical (table : AliasTable) : Part → Prop
  | .plain text => text ≠ []
  | .group kind opening body _ =>
    (Cursor.start opening).tokens = [.opener kind opening, .endOfInput] ∧
      ∀ text, body.getLast? = some (.plain text) → text.Whole
  | .reference name _ =>
    AliasTable.isReferable name = true ∧ table.replacing = true ∧ ∃ body, table.get? name = some body

/-- Parts that can be read, of which no two texts stand side by side. -/
structure Tree.Canonical (table : AliasTable) (level : Tree) : Prop where
  parts : ∀ part ∈ level, part.Canonical table
  apart : ∀ before first second after, level ≠ before ++ .plain first :: .plain second :: after

/-- A tree in canonical form at each of its levels. -/
def Tree.CanonicalThroughout (table : AliasTable) (tree : Tree) : Prop :=
  ∀ level, Tree.HasLevel level tree → level.Canonical table

namespace Tree

variable {table : AliasTable} {part found : Part} {tree : Tree}

/-- A tree with a part before it has no other part than joined text. -/
theorem mem_join (member : found ∈ join part tree) :
    found = part ∨ found ∈ tree ∨ ∃ first second, part = .plain first ∧ found = .plain (first ++ second) := by
  unfold join at member
  split at member
  · rename_i first second rest
    rcases List.mem_cons.mp member with rfl | later
    · exact .inr (.inr ⟨first, second, rfl, rfl⟩)
    · exact .inr (.inl (List.mem_cons_of_mem _ later))
  · rcases List.mem_cons.mp member with rfl | later
    · exact .inl rfl
    · exact .inr (.inl later)

theorem canonical_nil : Canonical table [] := ⟨by simp, by simp⟩

theorem Canonical.join (canonical : Canonical table tree) (here : part.Canonical table) :
    Canonical table (join part tree) := by
  obtain ⟨parts, apart⟩ := canonical
  constructor
  · intro found member
    rcases mem_join member with rfl | later | ⟨first, second, rfl, rfl⟩
    · exact here
    · exact parts found later
    · exact fun empty => here (List.append_eq_nil_iff.mp empty).1
  · intro before first second after side
    unfold Tree.join at side
    split at side
    · rename_i text more rest
      rcases before with _ | ⟨other, before⟩
      · obtain ⟨-, rfl⟩ := List.cons.inj side
        exact apart [] more second after rfl
      · obtain ⟨-, rfl⟩ := List.cons.inj side
        exact apart (.plain more :: before) first second after rfl
    · rename_i unjoined
      rcases before with _ | ⟨other, before⟩
      · obtain ⟨rfl, rfl⟩ := List.cons.inj side
        exact unjoined _ _ _ rfl rfl
      · obtain ⟨-, rfl⟩ := List.cons.inj side
        exact apart before first second after rfl

namespace CanonicalThroughout

theorem nil : CanonicalThroughout table [] := by
  intro level has
  cases has with
  | here => exact canonical_nil
  | within member => cases member

/-- A part whose levels are in canonical form may be put before such a tree. -/
theorem join (throughout : CanonicalThroughout table tree) (here : part.Canonical table)
    (inner : ∀ body, part.inner? = some body → CanonicalThroughout table body) :
    CanonicalThroughout table (join part tree) := by
  intro level has
  cases has with
  | here => exact (throughout tree .here).join here
  | within member within inside =>
    rcases mem_join member with rfl | later | ⟨first, second, rfl, rfl⟩
    · exact inner _ within level inside
    · exact throughout level (.within later within inside)
    · cases within

end CanonicalThroughout

end Tree

/-! ## The last text of a tree -/

namespace Tree

variable {part : Part} {tree body : Tree} {kind : GroupKind} {opening run : Text} {repetition : Option Repetition}

/-- A tree ends in a text that is all of it, or that the parts behind the first one end in. -/
theorem getLast?_join (last : (join part tree).getLast? = some (.plain run)) :
    join part tree = [.plain run] ∨ tree.getLast? = some (.plain run) := by
  unfold join at last ⊢
  split at last
  · rename_i rest
    rcases rest with _ | ⟨next, rest⟩
    · exact .inl (congrArg ([·]) (Option.some.inj last))
    · exact .inr last
  · rcases tree with _ | ⟨next, rest⟩
    · exact .inl (congrArg ([·]) (Option.some.inj last))
    · exact .inr last

theorem getLast?_group (last : (.group kind opening body repetition :: tree).getLast? = some (.plain run)) :
    tree.getLast? = some (.plain run) := by
  rcases tree with _ | ⟨next, rest⟩
  · cases last
  · exact last

end Tree

/-- A quantifier that states no bounds is plain text elsewhere. -/
theorem plain_of_ofQuantifier {after later raw : Text} (quantifier : scan true after = (.quantifier raw, later))
    (stated : Repetition.ofQuantifier raw 0 = .ok none) : ∀ c ∈ raw, endsPlainText c = false ∧ c ≠ '[' := by
  obtain rfl := source_append_of_scan quantifier
  have alone := Repetition.scan_append_of_ofQuantifier quantifier stated []
  rw [List.append_nil] at alone
  rcases raw with _ | ⟨c, inner⟩
  · cases alone
  rcases startsQuantifier_cons.mp (startsQuantifier_of_scan alone).2 with rfl | rfl | rfl
  · obtain rfl : inner = [] := congrArg Prod.snd alone
    cases stated
  · obtain rfl : inner = [] := congrArg Prod.snd alone
    cases stated
  · obtain ⟨taken, more, rfl, harmless⟩ := (docile_of_scan alone stated).exists_braces
    have absent : '\x7d' ∉ '\x7b' :: taken := by
      rw [List.mem_cons, not_or]
      exact ⟨by decide, fun member => (harmless _ member).1 rfl⟩
    obtain rfl : more = [] := (Text.dropThrough_append _ absent more).symm.trans (congrArg Prod.snd alone)
    exact plain_braces harmless

section LastText

variable {means : Text → Part → Prop} {afterClose : Bool} {text rest after run : Text} {tree : Tree}

/-- What spells a tree ends in a text that spells its last text alone. -/
theorem Spells.exists_last (spells : Spells means afterClose text tree rest)
    (last : tree.getLast? = some (.plain run)) : ∃ own, Spells means false own [.plain run] rest := by
  induction spells with
  | atEnd => cases last
  | atCloser => cases last
  | copied read isText more ih =>
    rcases Tree.getLast?_join last with alone | later
    · have own := Spells.copied (scan_of_no_quantifier read (Token.isText_ne_quantifier isText)) isText more
      rw [alone] at own
      exact ⟨_, own⟩
    · exact ih later
  | reference read found more ih =>
    rcases Tree.getLast?_join last with alone | later
    · have own := Spells.reference (scan_of_no_quantifier read (by simp)) found more
      rw [alone] at own
      exact ⟨_, own⟩
    · exact ih later
  | bare _ _ _ _ _ ih => exact ih (Tree.getLast?_group last)
  | @quantified _ _ _ _ _ _ _ raw _ _ _ bounds _ _ quantifier stated more _ ih =>
    cases bounds with
    | some repetition => exact ih (Tree.getLast?_group last)
    | none =>
      rcases Tree.getLast?_join (Tree.getLast?_group last) with alone | later
      · -- the quantifier has become the start of the text
        have nonempty : raw ≠ [] := source_ne_nil_of_scan quantifier (by simp)
        have own := more.behind_plain nonempty (plain_of_ofQuantifier quantifier (stated 0))
        rw [alone] at own
        exact ⟨_, own⟩
      · exact ih later

/-- Text at the end of a group is whole. -/
theorem Spells.whole_last (named : ∀ name part, means name part → part.source = '@' :: name)
    (spells : Spells means afterClose text tree (')' :: after)) (last : tree.getLast? = some (.plain run)) :
    run.Whole := by
  obtain ⟨own, spells⟩ := spells.exists_last last
  obtain ⟨again, -⟩ := spells.respelled named (Text.alike_closer after [])
  have source : Tree.source [.plain run] = run := by simp [Part.source]
  rw [source] at again
  obtain ⟨tokens, whole, -⟩ := again.scanAll_eq
  have read : scanAll false (run ++ [')']) = tokens ++ [.closer, .endOfInput] := by
    rw [whole false, scanAll_closer, scanAll]
  refine ⟨tokens, read, ?_⟩
  have characters := flatMap_source_scanAll false (run ++ [')'])
  rw [read, List.flatMap_append] at characters
  exact List.append_cancel_right characters

end LastText

/-! ## Trees that were read -/

section Reading

variable {table : AliasTable} {means : Text → Part → Prop} {afterClose : Bool} {text rest : Text} {tree : Tree}

/-- A tree that a text spells is in canonical form if what references mean is. -/
theorem Spells.canonicalThroughout (spells : Spells means afterClose text tree rest)
    (named : ∀ name part, means name part → part.source = '@' :: name)
    (canonical : ∀ name part, AliasTable.isReferable name = true → means name part →
      part.Canonical table ∧ ∀ body, part.inner? = some body → body.CanonicalThroughout table) :
    tree.CanonicalThroughout table := by
  induction spells with
  | atEnd => exact .nil
  | atCloser => exact .nil
  | copied read isText _ ih =>
    have nonempty := source_ne_nil_of_scan read (Token.isText_ne isText).1
    exact ih.join nonempty (by simp [Part.inner?])
  | reference read found _ ih =>
    obtain ⟨here, inner⟩ := canonical _ _ (isReferable_of_scan read) found
    exact ih.join here inner
  | @bare _ _ _ _ _ opening kind body _ read inner _ _ ihBody ih =>
    have group : (Part.group kind opening body none).Canonical table :=
      ⟨tokens_opening read, fun run => inner.whole_last named⟩
    exact ih.join group fun _ within => Option.some.inj within ▸ ihBody
  | @quantified _ _ _ _ _ _ opening raw kind body _ bounds read inner quantifier _ _ ihBody ih =>
    have group (repetition : Option Repetition) : (Part.group kind opening body repetition).Canonical table :=
      ⟨tokens_opening read, fun run => inner.whole_last named⟩
    cases bounds with
    | some repetition => exact ih.join (group _) fun _ within => Option.some.inj within ▸ ihBody
    | none =>
      have nonempty := source_ne_nil_of_scan quantifier (by simp)
      have behind : Tree.CanonicalThroughout table (Tree.join (.plain raw) _) :=
        ih.join nonempty (by simp [Part.inner?])
      exact behind.join (group _) fun _ within => Option.some.inj within ▸ ihBody

/-- Bodies are read with less depth left, so a tree is in canonical form at each of its levels. -/
theorem Reader.canonicalThroughout {depth : Nat} {path : AliasPath}
    (read : (readWithin table depth (ofPattern text) path).answer = .ok tree) : tree.CanonicalThroughout table := by
  induction depth using Nat.strongRecOn generalizing text path tree with
  | ind depth ih =>
    have spells := answer_readWithin_eq_ok_iff.mp read
    refine spells.canonicalThroughout (fun _ _ => source_of_meansWithin) fun name part referable means => ?_
    cases known : table.replacement? name with
    | none =>
      obtain rfl := (meansWithin_of_unknown known).mp means
      exact ⟨List.cons_ne_nil _ _, by simp [Part.inner?]⟩
    | some body =>
      cases depth with
      | zero => exact absurd means (not_meansWithin_zero known)
      | succ less =>
        obtain ⟨-, inner, readBody, rfl⟩ := (meansWithin_succ known).mp means
        have replacing : table.replacing = true := by
          by_contra off
          rw [AliasTable.replacement?, if_neg off] at known
          cases known
        have registered := AliasTable.get?_of_replacement? known
        exact ⟨⟨referable, replacing, body, registered⟩,
          fun _ within => Option.some.inj within ▸ ih less (Nat.lt_succ_self less) readBody⟩

end Reading

/-- In a tree that was read from a pattern, no text is empty and no two texts stand side by side, at any level. Each
opener is, on its own, the opener of its group, each reference names an alias that is replaced, and text at the end of
a group consists of whole tokens. -/
theorem parsed_trees_canonical {table : AliasTable} {pattern : Text} {tree level : Tree}
    (read : Tree.ofPattern table pattern = .ok tree) (has : Tree.HasLevel level tree) : level.Canonical table :=
  Reader.canonicalThroughout read level has

/-- A group that ends in braces without bounds, a class and an escape. -/
def bracedGroup : Part :=
  .group .capturing ['('] [.group .capturing ['('] [.plain ['x']] none, .plain "\x7b \x7d[)]\\)".toList] none

/-- The group is all of a body, and the pattern refers to its alias and to a name that has none. -/
theorem parsed_trees_canonical_braced :
    Tree.ofPattern (loneAlias "((x)\x7b \x7d[)]\\))".toList true) "@a@c".toList =
      .ok [.reference ['a'] [bracedGroup], .plain "@c".toList] ∧
    Tree.HasLevel [bracedGroup] [.reference ['a'] [bracedGroup], .plain "@c".toList] ∧
    Tree.Canonical (loneAlias "((x)\x7b \x7d[)]\\))".toList true) [bracedGroup] ∧
    Text.Whole "\x7b \x7d[)]\\)".toList := by
  have read : Tree.ofPattern (loneAlias "((x)\x7b \x7d[)]\\))".toList true) "@a@c".toList =
      .ok [.reference ['a'] [bracedGroup], .plain "@c".toList] := by
    with_unfolding_all rfl
  have has : Tree.HasLevel [bracedGroup] [.reference ['a'] [bracedGroup], .plain "@c".toList] :=
    .within (List.mem_cons_self ..) rfl .here
  have canonical := parsed_trees_canonical read has
  have group := canonical.parts bracedGroup (List.mem_singleton_self _)
  exact ⟨read, has, canonical, group.2 _ rfl⟩

end GroupUnroll
