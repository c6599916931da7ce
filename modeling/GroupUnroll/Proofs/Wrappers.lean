import GroupUnroll.Proofs.Bodies
import GroupUnroll.Proofs.Monotone
import GroupUnroll.Proofs.OpenerRule
import GroupUnroll.Proofs.SizeLimit
import Mathlib.Algebra.Ring.Nat

/-! # Groups around what replaces a reference

Naming references adds a group around what each of them is replaced by, and nothing else. `Tree.pieces` cuts what a
tree expands to into pieces of text, and the openings and closings of these groups; with references named all of them
are written, and without names only the text. Whatever is written with names is written without them.
-/

namespace GroupUnroll

/-- A piece of what is written: text that is kept without names, or the opening or the closing of the group around
what replaces a reference. -/
inductive Piece
  | kept (text : Text)
  | opening (name : Text)
  | closing
deriving DecidableEq

namespace Piece

/-- The characters of a piece. -/
def source : Piece → Text
  | .kept text => text
  | .opening name => Unroller.namedOpening name
  | .closing => [')']

/-- Whether a piece belongs to what is written without names. -/
def isKept : Piece → Bool
  | .kept _ => true
  | _ => false

/-- The name of the group that a piece opens. -/
def names : Piece → List Text
  | .opening name => [name]
  | _ => []

/-- What is written for a piece. -/
def written (naming : Bool) (piece : Piece) : Text := if naming || piece.isKept then piece.source else []

/-- Pieces in which every group that is opened is closed. -/
inductive Balanced : List Piece → Prop
  | nil : Balanced []
  | kept {rest : List Piece} (text : Text) (more : Balanced rest) : Balanced (.kept text :: rest)
  | wrapped {inner rest : List Piece} (name : Text) (inside : Balanced inner) (more : Balanced rest) :
      Balanced (.opening name :: (inner ++ .closing :: rest))

/-- The pieces of a group repeated: the mandatory copies, then the optional ones with their question marks. -/
def repeated (ceiling : UInt64) (copy : List Piece) : Option Repetition → List Piece
  | none => copy
  | some repetition =>
    (List.replicate repetition.min.toNat copy).flatten ++
      (List.replicate (repetition.optionalCount ceiling).toNat (copy ++ [.kept ['?']])).flatten

end Piece

mutual

/-- The pieces of what a part expands to. -/
def Part.pieces (ceiling : UInt64) : Part → List Piece
  | .plain text => [.kept text]
  | .group _ opening body repetition =>
    Piece.repeated ceiling (.kept opening :: (Tree.pieces ceiling body ++ [.kept [')']])) repetition
  | .reference name body => .opening name :: (Tree.pieces ceiling body ++ [.closing])

/-- The pieces of what a tree expands to. -/
def Tree.pieces (ceiling : UInt64) : Tree → List Piece
  | [] => []
  | part :: rest => Part.pieces ceiling part ++ Tree.pieces ceiling rest

end

/-- How often a group is written. -/
def copyCount (ceiling : UInt64) : Option Repetition → Nat
  | none => 1
  | some repetition => max repetition.min.toNat (repetition.max.orCeiling ceiling).toNat

mutual

/-- The names of the references in a part, once for each copy of the groups around them. -/
def Part.occurrences (ceiling : UInt64) : Part → List Text
  | .plain _ => []
  | .group _ _ body repetition =>
    (List.replicate (copyCount ceiling repetition) (Tree.occurrences ceiling body)).flatten
  | .reference name body => name :: Tree.occurrences ceiling body

/-- The names of the references in a tree, once for each copy of the groups around them. -/
def Tree.occurrences (ceiling : UInt64) : Tree → List Text
  | [] => []
  | part :: rest => Part.occurrences ceiling part ++ Tree.occurrences ceiling rest

end

namespace Piece

variable {ceiling : UInt64} {first second copy : List Piece} {repetition : Option Repetition}

theorem Balanced.append (before : Balanced first) (after : Balanced second) : Balanced (first ++ second) := by
  induction before with
  | nil => exact after
  | kept text _ ih => exact .kept text ih
  | wrapped name inside _ _ ih =>
    rw [List.cons_append, List.append_assoc, List.cons_append]
    exact .wrapped name inside ih

theorem Balanced.flatten_replicate (count : Nat) (balanced : Balanced copy) :
    Balanced (List.replicate count copy).flatten := by
  induction count with
  | zero => exact .nil
  | succ count ih =>
    rw [List.replicate_succ, List.flatten_cons]
    exact balanced.append ih

theorem Balanced.repeated (balanced : Balanced copy) : Balanced (repeated ceiling copy repetition) := by
  cases repetition with
  | none => exact balanced
  | some repetition =>
    have marked : Balanced (copy ++ [.kept ['?']]) := balanced.append (.kept _ .nil)
    exact (balanced.flatten_replicate _).append (marked.flatten_replicate _)

/-- The pieces of a tree open and close groups in pairs. -/
theorem balanced_pieces (tree : Tree) : Balanced (tree.pieces ceiling) := by
  induction tree using Tree.induct with
  | nil =>
    rw [Tree.pieces]
    exact .nil
  | plain run rest ih =>
    rw [Tree.pieces, Part.pieces]
    exact .kept run ih
  | group kind opening body repetition rest ihBody ih =>
    rw [Tree.pieces, Part.pieces]
    have copy : Balanced (.kept opening :: (Tree.pieces ceiling body ++ [.kept [')']])) :=
      .kept opening (ihBody.append (.kept _ .nil))
    exact copy.repeated.append ih
  | reference name body rest ihBody ih =>
    rw [Tree.pieces, Part.pieces, List.cons_append, List.append_assoc, List.singleton_append]
    exact .wrapped name ihBody ih

/-! ## What pieces are written as -/

theorem flatMap_flatten_replicate {α : Type} (read : Piece → List α) (count : Nat) (copy : List Piece) :
    (List.replicate count copy).flatten.flatMap read = (List.replicate count (copy.flatMap read)).flatten := by
  induction count with
  | zero => rfl
  | succ count ih =>
    rw [List.replicate_succ, List.flatten_cons, List.flatMap_append, ih, List.replicate_succ, List.flatten_cons]

theorem flatMap_written_repeated (unroller : Unroller) :
    (repeated unroller.ceiling copy repetition).flatMap (written unroller.naming) =
      unroller.repeated (copy.flatMap (written unroller.naming)) repetition := by
  cases repetition with
  | none => rfl
  | some repetition =>
    have mark : [Piece.kept ['?']].flatMap (written unroller.naming) = ['?'] := by simp [written, isKept, source]
    rw [repeated, Unroller.repeated, List.flatMap_append, flatMap_flatten_replicate, flatMap_flatten_replicate,
      List.flatMap_append, mark]

/-- A tree expands to its pieces, or to those that are kept without names. -/
theorem flatMap_written (unroller : Unroller) (tree : Tree) :
    (tree.pieces unroller.ceiling).flatMap (written unroller.naming) = unroller.expansion tree := by
  have kept (text : Text) : written unroller.naming (.kept text) = text := by simp [written, isKept, source]
  induction tree using Tree.induct with
  | nil =>
    rw [Tree.pieces, Unroller.expansion_nil]
    rfl
  | plain run rest ih =>
    rw [Tree.pieces, Part.pieces, List.flatMap_append, ih, Unroller.expansion_cons, Unroller.expansionOfPart_plain,
      List.flatMap_singleton, kept]
  | group kind opening body repetition rest ihBody ih =>
    rw [Tree.pieces, Part.pieces, List.flatMap_append, ih, flatMap_written_repeated, Unroller.expansion_cons,
      Unroller.expansionOfPart_group, List.flatMap_cons, List.flatMap_append, ihBody, List.flatMap_singleton,
      kept, kept]
  | reference name body rest ihBody ih =>
    rw [Tree.pieces, Part.pieces, List.flatMap_append, ih, Unroller.expansion_cons, Unroller.expansionOfPart,
      List.flatMap_cons, List.flatMap_append, ihBody, List.flatMap_singleton]
    cases unroller.naming <;> simp [written, isKept, source]

theorem flatMap_written_false (pieces : List Piece) :
    pieces.flatMap (written false) = (pieces.filter isKept).flatMap source := by
  induction pieces with
  | nil => rfl
  | cons piece pieces ih =>
    rw [List.flatMap_cons, ih]
    cases piece with
    | kept text => rw [List.filter_cons_of_pos rfl]; rfl
    | opening name => rw [List.filter_cons_of_neg (by simp [isKept])]; rfl
    | closing => rw [List.filter_cons_of_neg (by simp [isKept])]; rfl

/-- The groups that are opened are those of the references, once for each copy of the groups around them. -/
theorem flatMap_names_pieces (ceiling : UInt64) (tree : Tree) :
    (tree.pieces ceiling).flatMap names = tree.occurrences ceiling := by
  have repeated (copy : List Piece) (repetition : Option Repetition) :
      (repeated ceiling copy repetition).flatMap names =
        (List.replicate (copyCount ceiling repetition) (copy.flatMap names)).flatten := by
    cases repetition with
    | none => simp [Piece.repeated, copyCount]
    | some repetition =>
      have counted : copyCount ceiling (some repetition) =
          repetition.min.toNat + (repetition.optionalCount ceiling).toNat := by
        unfold Repetition.optionalCount
        change max _ _ = _
        omega
      have mark : [Piece.kept ['?']].flatMap names = [] := rfl
      rw [Piece.repeated, List.flatMap_append, flatMap_flatten_replicate, flatMap_flatten_replicate,
        List.flatMap_append, mark, List.append_nil, counted, ← List.replicate_append_replicate,
        List.flatten_append]
  induction tree using Tree.induct with
  | nil =>
    rw [Tree.pieces, Tree.occurrences]
    rfl
  | plain run rest ih =>
    rw [Tree.pieces, Tree.occurrences, Part.pieces, Part.occurrences, List.flatMap_append, ih]
    rfl
  | group kind opening body repetition rest ihBody ih =>
    have copy : (Piece.kept opening :: (Tree.pieces ceiling body ++ [.kept [')']])).flatMap names =
        Tree.occurrences ceiling body := by
      simp [names, ihBody]
    rw [Tree.pieces, Tree.occurrences, Part.pieces, Part.occurrences, List.flatMap_append, ih, repeated, copy]
  | reference name body rest ihBody ih =>
    rw [Tree.pieces, Tree.occurrences, Part.pieces, Part.occurrences, List.flatMap_append, ih, List.flatMap_cons,
      List.flatMap_append, ihBody]
    simp [names]

/-- Each group that is opened and closed takes five bytes and its name. -/
theorem Balanced.byteLength_source {pieces : List Piece} (balanced : Balanced pieces) :
    Text.byteLength (pieces.flatMap source) = Text.byteLength ((pieces.filter isKept).flatMap source) +
      ((pieces.flatMap names).map fun name => Text.byteLength name + 5).sum := by
  induction balanced with
  | nil => rfl
  | kept text _ ih =>
    simp only [List.flatMap_cons, List.filter_cons, isKept, source, names, Text.byteLength_append, ih, if_true,
      List.nil_append]
    omega
  | @wrapped inner rest name _ _ ihInside ih =>
    have opening : Text.byteLength (source (.opening name)) = Text.byteLength name + 4 := by
      have ends : Text.byteLength "(?<".toList = 3 ∧ Text.byteLength ">".toList = 1 := by decide
      change Text.byteLength ("(?<".toList ++ (name ++ ">".toList)) = _
      rw [Text.byteLength_append, Text.byteLength_append]
      omega
    have closing : Text.byteLength (source .closing) = 1 := by decide
    simp only [List.flatMap_cons, List.flatMap_append, List.filter_cons, List.filter_append, isKept, names,
      Text.byteLength_append, ihInside, ih, opening, closing, List.map_append, List.sum_append, Bool.false_eq_true,
      if_false, List.nil_append, List.map_cons, List.map_nil, List.sum_cons, List.sum_nil]
    omega

end Piece

/-! ## Names that groups can have -/

theorem Unroller.nameable_iff {unroller : Unroller} {tree : Tree} :
    unroller.Nameable tree ↔ ∀ part ∈ tree, unroller.NameableIn part := by
  induction tree with
  | nil => simp [Nameable]
  | cons part rest ih => rw [Nameable, ih, List.forall_mem_cons]

/-- A reference that is named in a tree that can be written has a name that groups can have. -/
theorem Unroller.Nameable.of_mentions {unroller : Unroller} {tree inner : Tree} {name : Text}
    (naming : unroller.naming = true) (mentions : Tree.Mentions name inner tree) :
    unroller.Nameable tree → name.head?.any Char.isDigit = false := by
  rw [nameable_iff]
  intro nameable
  induction mentions with
  | here member =>
    have found := nameable _ member
    rw [NameableIn] at found
    exact found.1 naming
  | inGroup member _ ih =>
    have found := nameable _ member
    rw [NameableIn, nameable_iff] at found
    exact ih found
  | inReference member _ ih =>
    have found := nameable _ member
    rw [NameableIn, nameable_iff] at found
    exact ih found.2

theorem isNameChar_of_isAliasChar {c : Char} (letter : isAliasChar c = true) : isNameChar c = true := by
  simp only [isAliasChar, Bool.or_eq_true, beq_iff_eq] at letter
  simp only [isNameChar, Bool.or_eq_true, beq_iff_eq]
  refine letter.imp_left fun letter => ?_
  have ascii {greatest : UInt32} (small : greatest.toNat < 128) (least : c.val ≤ greatest) :
      isAlphanumeric c = c.isAlphanum := by
    have below : c.toNat < 128 := Nat.lt_of_le_of_lt (UInt32.le_iff_toNat_le.mp least) small
    exact isAlphanumeric_eq_isAlphanum (decide_eq_true below)
  rcases letter with lower | digit
  · have bounds : (decide (c.val ≥ 'a'.val) && decide (c.val ≤ 'z'.val)) = true := lower
    rw [ascii (by decide) (of_decide_eq_true (Bool.and_eq_true_iff.mp bounds).2)]
    have alphabetic : c.isAlpha = true := Bool.or_eq_true_iff.mpr (.inr lower)
    exact Bool.or_eq_true_iff.mpr (.inl alphabetic)
  · have bounds : (decide (c.val ≥ '0'.val) && decide (c.val ≤ '9'.val)) = true := digit
    rw [ascii (by decide) (of_decide_eq_true (Bool.and_eq_true_iff.mp bounds).2)]
    exact Bool.or_eq_true_iff.mpr (.inr digit)

/-- The rule for openers decides on a named group at the opening of a group that is named after an alias. -/
theorem openerToken_namedOpening {name : Text} (referable : AliasTable.isReferable name = true) (text : Text) :
    openerToken isNameChar ('?' :: '<' :: (name ++ '>' :: text)) =
      .opener (.named name) (Unroller.namedOpening name) := by
  obtain ⟨nonempty, letters⟩ := Bool.and_eq_true_iff.mp referable
  have letters : ∀ c ∈ name, isAliasChar c = true := List.all_eq_true.mp letters
  obtain ⟨first, more, rfl⟩ : ∃ first more, name = first :: more := by
    cases name with
    | nil => cases nonempty
    | cons first more => exact ⟨first, more, rfl⟩
  have characters : ∀ c ∈ first :: more, isNameChar c = true := fun c member =>
    isNameChar_of_isAliasChar (letters c member)
  -- the first letter makes it none of the two groups that look behind
  have other (c : Char) (stop : isAliasChar c = false) : c ≠ first := by
    rintro rfl
    rw [letters _ (List.mem_cons_self ..)] at stop
    cases stop
  have unfixed : ByteCursor.fixedOpeners.find? (fun entry =>
      entry.1.isPrefixOf ('(' :: '?' :: '<' :: (first :: more ++ '>' :: text))) = none := by
    simp [ByteCursor.fixedOpeners, other '=' (by decide), other '!' (by decide)]
  rw [openerToken_of_unfixed unfixed (by simp), namedOpener?_angle,
    nameOpener?_append (by decide) (List.cons_ne_nil first more) characters]
  rfl

/-- The opening of a group that is named after an alias is read as the opener of a group with this name. -/
theorem scan_namedOpening {name : Text} (referable : AliasTable.isReferable name = true) (afterClose : Bool)
    (text : Text) :
    scan afterClose (Unroller.namedOpening name ++ text) =
      (.opener (.named name) (Unroller.namedOpening name), text) := by
  have whole : Unroller.namedOpening name ++ text = '(' :: '?' :: '<' :: (name ++ '>' :: text) := by
    simp [Unroller.namedOpening]
  have read : (scan afterClose (Unroller.namedOpening name ++ text)).1 =
      .opener (.named name) (Unroller.namedOpening name) := by
    rw [whole]
    exact (scanOpener_eq_openerToken _).trans (openerToken_namedOpening referable text)
  have source := scan_source afterClose (Unroller.namedOpening name ++ text)
  rw [read] at source
  exact Prod.ext read (List.append_cancel_left source)

/-! ## Unrolling with names and without -/

/-- Naming references only adds groups. What is unrolled with names is unrolled without them, and is the same but for
the openings and closings of the groups, which come in pairs, one for each reference and each copy of the groups around
it. With names no tree is unrolled that has a reference with a digit first in its name, wherever it stands; without
names no tree is refused for a name. And the opening that is written for an alias is read as the opener of a group with
its name, whatever stands behind it. -/
theorem naming_only_wraps (ceiling limit : UInt64) (tree : Tree) :
    (∀ wrapped, (⟨ceiling, true, limit⟩ : Unroller).unroll tree = .ok wrapped →
      ∃ bare, (⟨ceiling, false, limit⟩ : Unroller).unroll tree = .ok bare ∧
        wrapped = (tree.pieces ceiling).flatMap Piece.source ∧
        bare = ((tree.pieces ceiling).filter Piece.isKept).flatMap Piece.source ∧
        Piece.Balanced (tree.pieces ceiling) ∧
        (tree.pieces ceiling).flatMap Piece.names = tree.occurrences ceiling ∧
        Text.byteLength wrapped = Text.byteLength bare +
          ((tree.occurrences ceiling).map fun name => Text.byteLength name + 5).sum) ∧
    (∀ name inner wrapped, Tree.Mentions name inner tree → name.head?.any Char.isDigit = true →
      (⟨ceiling, true, limit⟩ : Unroller).unroll tree ≠ .ok wrapped) ∧
    (∀ name, (⟨ceiling, false, limit⟩ : Unroller).unroll tree ≠ .error (.badAliasName name)) ∧
    ∀ (table later : AliasTable) name body, table.insert name body = .ok later →
      name.head?.any Char.isDigit = false →
        Unroller.namedOpening? name = some (Unroller.namedOpening name) ∧ ∀ afterClose text,
          scan afterClose (Unroller.namedOpening name ++ text) =
            (.opener (.named name) (Unroller.namedOpening name), text) := by
  refine ⟨?_, ?_, ?_, ?_⟩
  · intro wrapped written
    have milder : Unroller.Milder ⟨ceiling, false, limit⟩ ⟨ceiling, true, limit⟩ :=
      ⟨UInt64.le_refl _, nofun, UInt64.le_refl _⟩
    obtain ⟨bare, wrote, -⟩ := milder.emit_shortens tree 0 0 (Nat.le_refl _) wrapped written
    have withNames : wrapped = (tree.pieces ceiling).flatMap Piece.source :=
      (Unroller.eq_expansion_of_emit tree written).trans (Piece.flatMap_written ⟨ceiling, true, limit⟩ tree).symm
    have without : bare = ((tree.pieces ceiling).filter Piece.isKept).flatMap Piece.source := by
      rw [← Piece.flatMap_written_false]
      have expanded := Unroller.eq_expansion_of_emit tree wrote
      exact expanded.trans (Piece.flatMap_written ⟨ceiling, false, limit⟩ tree).symm
    have balanced : Piece.Balanced (tree.pieces ceiling) := Piece.balanced_pieces tree
    have opened := Piece.flatMap_names_pieces ceiling tree
    refine ⟨bare, wrote, withNames, without, balanced, opened, ?_⟩
    rw [withNames, without, balanced.byteLength_source, opened]
  · intro name inner wrapped mentions digit written
    have nameable := Unroller.nameable_of_emit tree written
    rw [nameable.of_mentions rfl mentions] at digit
    cases digit
  · intro name refused
    obtain ⟨before, part, -, refuses⟩ := Unroller.refusesAt_of_emit tree refused
    cases refuses with
    | badName naming => cases naming
  · intro table later name body inserted nameable
    have referable := (AliasTable.insert_eq_ok.mp inserted).1
    exact ⟨if_neg (by simp [nameable]), fun afterClose text => scan_namedOpening referable afterClose text⟩

/-- A reference in a group that is written twice. -/
def twiceNamed : Tree := [.group .capturing ['('] [.reference ['a'] [.plain ['x']]] (some ⟨2, .atMost 2⟩)]

/-- A reference that cannot be named in a group that is written no times. -/
def neverNamed : Tree := [.group .capturing ['('] [.reference ['1'] []] (some ⟨0, .atMost 0⟩)]

theorem naming_only_wraps_twice :
    (∃ bare, (⟨1, false, 100⟩ : Unroller).unroll twiceNamed = .ok bare ∧
      Text.byteLength "((?<a>x))((?<a>x))".toList = Text.byteLength bare + 12) ∧
    (∀ wrapped, (⟨1, true, 100⟩ : Unroller).unroll neverNamed ≠ .ok wrapped) ∧
    (⟨1, false, 100⟩ : Unroller).unroll neverNamed ≠ .error (.badAliasName ['1']) ∧
    scan true "(?<a>é".toList = (.opener (.named ['a']) "(?<a>".toList, ['é']) := by
  obtain ⟨shrinks, -, -, reads⟩ := naming_only_wraps 1 100 twiceNamed
  obtain ⟨-, refused, unnamed, -⟩ := naming_only_wraps 1 100 neverNamed
  obtain ⟨bare, written, -, -, -, -, length⟩ := shrinks "((?<a>x))((?<a>x))".toList (by decide +kernel)
  have inside : Tree.Mentions ['1'] [] [.reference ['1'] []] := .here (List.mem_singleton_self _)
  have mentions : Tree.Mentions ['1'] [] neverNamed := .inGroup (List.mem_singleton_self _) inside
  have five : ((Tree.occurrences 1 twiceNamed).map fun name => Text.byteLength name + 5).sum = 12 := by decide +kernel
  rw [five] at length
  exact ⟨⟨bare, written, length⟩, fun wrapped => refused _ _ wrapped mentions (by decide), unnamed _,
    (reads .empty ⟨[(['a'], ['x'])], false, false⟩ ['a'] ['x'] rfl (by decide)).2 true ['é']⟩

end GroupUnroll
