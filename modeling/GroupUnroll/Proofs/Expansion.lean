import GroupUnroll.Proofs.Answer
import GroupUnroll.Unrolling.Unroller
import Mathlib.Tactic.Common

/-! # Unrolling is exact expansion

`Unroller.expansion` says what a tree expands to, without buffers, limits or words. Unrolling writes this
text or refuses the tree. It refuses a tree only at a part that it comes to: at a group whose copies
would take the buffer past the limit, or at a reference that cannot name a group. How many bytes are
in the buffer matters to the limit alone, so less of it never changes what is written.
-/

namespace GroupUnroll

/-- Trees by their first part: the body of a group or a reference is a smaller tree as well. -/
@[elab_as_elim]
theorem Tree.induct {motive : Tree → Prop} (nil : motive [])
    (plain : ∀ text rest, motive rest → motive (.plain text :: rest))
    (group : ∀ kind opening body repetition rest, motive body → motive rest →
      motive (.group kind opening body repetition :: rest))
    (reference : ∀ name body rest, motive body → motive rest → motive (.reference name body :: rest)) :
    ∀ tree, motive tree
  | [] => nil
  | .plain text :: rest => plain text rest (induct nil plain group reference rest)
  | .group kind opening body repetition :: rest =>
    group kind opening body repetition rest (induct nil plain group reference body)
      (induct nil plain group reference rest)
  | .reference name body :: rest =>
    reference name body rest (induct nil plain group reference body)
      (induct nil plain group reference rest)
termination_by tree => sizeOf tree
decreasing_by all_goals (simp only [List.cons.sizeOf_spec, Part.plain.sizeOf_spec,
  Part.group.sizeOf_spec, Part.reference.sizeOf_spec]; omega)

/-- How many copies of a group are optional, counted in integers. -/
def Repetition.optionalCount (ceiling : UInt64) (repetition : Repetition) : Int :=
  Max.max 0 ((repetition.max.orCeiling ceiling).toNat - repetition.min.toNat)

theorem Repetition.toNat_optionalCount (ceiling : UInt64) (repetition : Repetition) :
    (repetition.optionalCount ceiling).toNat = repetition.optionalCopies ceiling := by
  unfold optionalCount optionalCopies
  omega

namespace Unroller

/-- What one copy of a group becomes. -/
def repeated (unroller : Unroller) (copy : Text) : Option Repetition → Text
  | none => copy
  | some repetition =>
    (List.replicate repetition.min.toNat copy).flatten ++
      (List.replicate (repetition.optionalCount unroller.ceiling).toNat (copy ++ ['?'])).flatten

/-- How the group opens that is named after an alias. -/
def namedOpening (name : Text) : Text := '(' :: '?' :: '<' :: (name ++ ['>'])

mutual

/-- What one part expands to. -/
def expansionOfPart (unroller : Unroller) : Part → Text
  | .plain text => text
  | .group _ opening body repetition =>
    unroller.repeated (opening ++ (expansion unroller body ++ [')'])) repetition
  | .reference name body =>
    if unroller.naming then namedOpening name ++ (expansion unroller body ++ [')'])
    else expansion unroller body

/-- What a tree expands to. -/
def expansion (unroller : Unroller) : Tree → Text
  | [] => []
  | part :: rest => expansionOfPart unroller part ++ expansion unroller rest

end

variable {unroller : Unroller}

@[simp] theorem expansion_nil : unroller.expansion [] = [] := by simp [expansion]

@[simp] theorem expansion_cons (part : Part) (rest : Tree) :
    unroller.expansion (part :: rest) = unroller.expansionOfPart part ++ unroller.expansion rest := by
  simp [expansion]

@[simp] theorem expansionOfPart_plain (text : Text) : unroller.expansionOfPart (.plain text) = text := by
  simp [expansionOfPart]

@[simp] theorem expansionOfPart_group (kind : GroupKind) (opening : Text) (body : Tree)
    (repetition : Option Repetition) :
    unroller.expansionOfPart (.group kind opening body repetition) =
      unroller.repeated (opening ++ (unroller.expansion body ++ [')'])) repetition := by
  simp [expansionOfPart]

/-- What is written for a group with at least one copy starts with a copy. -/
theorem repeated_eq_append (copy : Text) {repetition : Repetition}
    (some_copy : 1 ≤ max repetition.min.toNat (repetition.max.orCeiling unroller.ceiling).toNat) :
    ∃ more, unroller.repeated copy (some repetition) = copy ++ more := by
  rw [repeated]
  cases mandatory : repetition.min.toNat with
  | succ count =>
    rw [List.replicate_succ, List.flatten_cons, List.append_assoc]
    exact ⟨_, rfl⟩
  | zero =>
    have optional : 0 < (repetition.optionalCount unroller.ceiling).toNat := by
      unfold Repetition.optionalCount
      omega
    obtain ⟨count, counted⟩ := Nat.exists_eq_add_of_lt optional
    rw [counted, Nat.zero_add, List.replicate_succ, List.flatten_cons, List.append_assoc]
    exact ⟨_, rfl⟩

/-! ## The size check -/

theorem repeated_eq_copies (copy : Text) (repetition : Repetition) :
    unroller.repeated copy (some repetition) =
      copies copy repetition.min.toNat (repetition.optionalCopies unroller.ceiling) := by
  rw [repeated, Repetition.toNat_optionalCount, copies]

theorem byteLength_flatten_replicate (count : Nat) (text : Text) :
    Text.byteLength (List.replicate count text).flatten = Text.byteLength text * count := by
  induction count with
  | zero => rfl
  | succ count ih =>
    rw [List.replicate_succ, List.flatten_cons, Text.byteLength_append, ih, Nat.mul_succ, Nat.add_comm]

theorem byteLength_copies (copy : Text) (mandatory optional : Nat) :
    Text.byteLength (copies copy mandatory optional) =
      Text.byteLength copy * mandatory + (Text.byteLength copy + 1) * optional := by
  have mark : Text.byteLength ['?'] = 1 := by decide
  rw [copies, Text.byteLength_append, byteLength_flatten_replicate, byteLength_flatten_replicate,
    Text.byteLength_append, mark]

/-- A size that fits the word is reached only through sizes that fit it. -/
theorem unrolledSize?_eq (used copySize mandatory optional : Nat) :
    unrolledSize? used copySize mandatory optional =
      checkedSize? (used + (copySize * mandatory + (copySize + 1) * optional)) := by
  unfold unrolledSize?
  generalize copySize * mandatory = required
  generalize (copySize + 1) * optional = extra
  rw [Nat.add_comm used]
  unfold checkedSize?
  by_cases fits : required + extra + used < UInt64.size
  · have first : required < UInt64.size := by omega
    have second : extra < UInt64.size := by omega
    have both : required + extra < UInt64.size := by omega
    simp [first, second, both, fits]
  · rw [if_neg fits]
    by_cases first : required < UInt64.size <;> by_cases second : extra < UInt64.size <;>
      by_cases both : required + extra < UInt64.size <;> simp [first, second, both, fits]

/-- The limit is a word, so checking every intermediate size against the word changes nothing. -/
theorem emitCopies_eq (used : Nat) (copy : Text) (repetition : Repetition) :
    unroller.emitCopies used copy repetition =
      if used + Text.byteLength (unroller.repeated copy (some repetition)) ≤ unroller.sizeLimit.toNat then
        .ok (unroller.repeated copy (some repetition))
      else .error (.tooLarge unroller.sizeLimit) := by
  have limit : unroller.sizeLimit.toNat < UInt64.size := unroller.sizeLimit.toNat_lt_size
  rw [repeated_eq_copies, byteLength_copies, emitCopies, unrolledSize?_eq]
  generalize used + _ = size
  unfold checkedSize?
  by_cases word : size < UInt64.size
  · rw [if_pos word]
  · rw [if_neg word, if_neg (by omega)]

/-! ## What a part and the parts after it become -/

section Parts

variable {used : Nat} {part : Part} {rest body : Tree} {text opening name : Text} {kind : GroupKind}
  {repetition : Option Repetition} {refusal : Refusal}

theorem emit_cons_eq_ok : unroller.emit used (part :: rest) = .ok text ↔
    ∃ first more, unroller.emitPart used part = .ok first ∧
      unroller.emit (used + Text.byteLength first) rest = .ok more ∧ first ++ more = text := by
  rw [emit, bind_eq_ok]
  refine exists_congr fun first => ?_
  rw [bind_eq_ok, exists_and_left]
  simp only [pure, Except.pure, Except.ok.injEq]

theorem emit_cons_eq_error : unroller.emit used (part :: rest) = .error refusal ↔
    unroller.emitPart used part = .error refusal ∨ ∃ first, unroller.emitPart used part = .ok first ∧
      unroller.emit (used + Text.byteLength first) rest = .error refusal := by
  rw [emit, bind_eq_error]
  refine or_congr_right (exists_congr fun first => and_congr_right fun _ => ?_)
  rw [bind_eq_error]
  simp [pure, Except.pure]

/-- Only a group with bounds is checked against the limit. -/
theorem emitPart_group : unroller.emitPart used (.group kind opening body repetition) =
    unroller.emit (Text.byteLength opening) body >>= fun inner =>
      if repetition.isSome = true → used +
          Text.byteLength (unroller.repeated (opening ++ (inner ++ [')'])) repetition) ≤
            unroller.sizeLimit.toNat then
        .ok (unroller.repeated (opening ++ (inner ++ [')'])) repetition)
      else .error (.tooLarge unroller.sizeLimit) := by
  rw [emitPart]
  refine congrArg _ (funext fun inner => ?_)
  cases repetition with
  | none => simp [repeated, pure, Except.pure]
  | some repetition => simp [emitCopies_eq]

theorem emitPart_group_eq_ok : unroller.emitPart used (.group kind opening body repetition) = .ok text ↔
    ∃ inner, unroller.emit (Text.byteLength opening) body = .ok inner ∧
      (repetition.isSome = true → used + Text.byteLength text ≤ unroller.sizeLimit.toNat) ∧
      unroller.repeated (opening ++ (inner ++ [')'])) repetition = text := by
  rw [emitPart_group, bind_eq_ok]
  refine exists_congr fun inner => and_congr_right fun _ => ?_
  constructor
  · intro written
    split_ifs at written with fits
    obtain rfl := Except.ok.inj written
    exact ⟨fits, rfl⟩
  · rintro ⟨fits, rfl⟩
    rw [if_pos fits]

theorem emitPart_group_eq_error :
    unroller.emitPart used (.group kind opening body repetition) = .error refusal ↔
    unroller.emit (Text.byteLength opening) body = .error refusal ∨
      ∃ inner, unroller.emit (Text.byteLength opening) body = .ok inner ∧ repetition.isSome = true ∧
        unroller.sizeLimit.toNat <
          used + Text.byteLength (unroller.repeated (opening ++ (inner ++ [')'])) repetition) ∧
        .tooLarge unroller.sizeLimit = refusal := by
  rw [emitPart_group, bind_eq_error]
  refine or_congr_right (exists_congr fun inner => and_congr_right fun _ => ?_)
  constructor
  · intro refused
    split_ifs at refused with fits
    rw [Classical.not_imp, Nat.not_le] at fits
    exact ⟨fits.1, fits.2, Except.error.inj refused⟩
  · rintro ⟨bounded, exceeds, rfl⟩
    rw [if_neg fun fits => Nat.not_le.mpr exceeds (fits bounded)]

theorem emitPart_unnamed (off : unroller.naming = false) :
    unroller.emitPart used (.reference name body) = unroller.emit used body := by
  simp [emitPart, off]

theorem emitPart_named (naming : unroller.naming = true) :
    unroller.emitPart used (.reference name body) =
      if name.head?.any Char.isDigit = true then .error (.badAliasName name)
      else do
        let inner ← unroller.emit (used + Text.byteLength (namedOpening name)) body
        return namedOpening name ++ (inner ++ [')']) := by
  rw [emitPart, if_pos naming, namedOpening?]
  split_ifs <;> rfl

theorem emitPart_named_eq_ok (naming : unroller.naming = true) :
    unroller.emitPart used (.reference name body) = .ok text ↔
      name.head?.any Char.isDigit = false ∧ ∃ inner,
        unroller.emit (used + Text.byteLength (namedOpening name)) body = .ok inner ∧
          namedOpening name ++ (inner ++ [')']) = text := by
  rw [emitPart_named naming]
  split_ifs with digit
  · simp [digit]
  · rw [bind_eq_ok]
    simp [digit, pure, Except.pure]

theorem emitPart_named_eq_error (naming : unroller.naming = true) :
    unroller.emitPart used (.reference name body) = .error refusal ↔
      (name.head?.any Char.isDigit = true ∧ .badAliasName name = refusal) ∨
        (name.head?.any Char.isDigit = false ∧
          unroller.emit (used + Text.byteLength (namedOpening name)) body = .error refusal) := by
  rw [emitPart_named naming]
  split_ifs with digit
  · simp [digit]
  · rw [bind_eq_error]
    simp [digit, pure, Except.pure]

end Parts

/-! ## Runs -/

/-- Writing a tree after `used` bytes comes to a part of it, with `before` bytes in the buffer. -/
inductive Reaches (unroller : Unroller) : (used : Nat) → Tree → (before : Nat) → Part → Prop
  | here {used : Nat} {part : Part} {rest : Tree} : Reaches unroller used (part :: rest) used part
  | later {used before : Nat} {part found : Part} {rest : Tree} {text : Text}
      (written : unroller.emitPart used part = .ok text)
      (more : Reaches unroller (used + Text.byteLength text) rest before found) :
      Reaches unroller used (part :: rest) before found
  /-- A group is written to a buffer of its own. -/
  | inGroup {used before : Nat} {kind : GroupKind} {opening : Text} {body rest : Tree}
      {repetition : Option Repetition} {found : Part}
      (inside : Reaches unroller (Text.byteLength opening) body before found) :
      Reaches unroller used (.group kind opening body repetition :: rest) before found
  | inReference {used before : Nat} {name : Text} {body rest : Tree} {found : Part}
      (unnamed : unroller.naming = false) (inside : Reaches unroller used body before found) :
      Reaches unroller used (.reference name body :: rest) before found
  | inNamed {used before : Nat} {name : Text} {body rest : Tree} {found : Part}
      (naming : unroller.naming = true) (nameable : name.head?.any Char.isDigit = false)
      (inside : Reaches unroller (used + Text.byteLength (namedOpening name)) body before found) :
      Reaches unroller used (.reference name body :: rest) before found

/-- Why a part is refused with `before` bytes in the buffer. -/
inductive RefusesAt (unroller : Unroller) (before : Nat) : Part → Refusal → Prop
  /-- The body of a group with bounds has been written, and the copies would go past the limit. -/
  | tooLarge {kind : GroupKind} {opening inner : Text} {body : Tree} {repetition : Repetition}
      (written : unroller.emit (Text.byteLength opening) body = .ok inner)
      (exceeds : unroller.sizeLimit.toNat < before +
        Text.byteLength (unroller.repeated (opening ++ (inner ++ [')'])) (some repetition))) :
      RefusesAt unroller before (.group kind opening body (some repetition)) (.tooLarge unroller.sizeLimit)
  /-- A reference is to become a named group, and its name starts with a digit. -/
  | badName {name : Text} {body : Tree} (naming : unroller.naming = true)
      (digit : name.head?.any Char.isDigit = true) :
      RefusesAt unroller before (.reference name body) (.badAliasName name)

/-- What is written is the expansion. -/
theorem eq_expansion_of_emit (tree : Tree) : ∀ {used : Nat} {text : Text},
    unroller.emit used tree = .ok text → text = unroller.expansion tree := by
  induction tree using Tree.induct with
  | nil =>
    intro used text written
    rw [emit] at written
    obtain rfl := Except.ok.inj written
    exact expansion_nil.symm
  | plain run rest ih =>
    intro used text written
    obtain ⟨first, more, here, later, rfl⟩ := emit_cons_eq_ok.mp written
    rw [emitPart] at here
    obtain rfl := Except.ok.inj here
    rw [expansion_cons, expansionOfPart_plain, ih later]
  | group kind opening body repetition rest ihBody ih =>
    intro used text written
    obtain ⟨first, more, here, later, rfl⟩ := emit_cons_eq_ok.mp written
    obtain ⟨inner, inside, -, rfl⟩ := emitPart_group_eq_ok.mp here
    rw [expansion_cons, expansionOfPart_group, ihBody inside, ih later]
  | reference name body rest ihBody ih =>
    intro used text written
    obtain ⟨first, more, here, later, rfl⟩ := emit_cons_eq_ok.mp written
    rw [expansion_cons, ih later]
    cases naming : unroller.naming with
    | false =>
      rw [emitPart_unnamed naming] at here
      rw [ihBody here, expansionOfPart, naming]
      rfl
    | true =>
      obtain ⟨-, inner, inside, rfl⟩ := (emitPart_named_eq_ok naming).mp here
      rw [ihBody inside, expansionOfPart, if_pos naming]

/-- A refusal is raised at a part that the run comes to. -/
theorem refusesAt_of_emit (tree : Tree) : ∀ {used : Nat} {refusal : Refusal},
    unroller.emit used tree = .error refusal →
      ∃ before part, unroller.Reaches used tree before part ∧ unroller.RefusesAt before part refusal := by
  induction tree using Tree.induct with
  | nil =>
    intro used refusal refused
    rw [emit] at refused
    cases refused
  | plain run rest ih =>
    intro used refusal refused
    rcases emit_cons_eq_error.mp refused with here | ⟨first, here, later⟩
    · rw [emitPart] at here
      cases here
    · obtain ⟨before, part, reaches, refuses⟩ := ih later
      exact ⟨before, part, .later here reaches, refuses⟩
  | group kind opening body repetition rest ihBody ih =>
    intro used refusal refused
    rcases emit_cons_eq_error.mp refused with here | ⟨first, here, later⟩
    · rcases emitPart_group_eq_error.mp here with inside | ⟨inner, inside, bounded, exceeds, rfl⟩
      · obtain ⟨before, part, reaches, refuses⟩ := ihBody inside
        exact ⟨before, part, .inGroup reaches, refuses⟩
      · obtain ⟨repetition, rfl⟩ := Option.isSome_iff_exists.mp bounded
        exact ⟨used, _, .here, .tooLarge inside exceeds⟩
    · obtain ⟨before, part, reaches, refuses⟩ := ih later
      exact ⟨before, part, .later here reaches, refuses⟩
  | reference name body rest ihBody ih =>
    intro used refusal refused
    rcases emit_cons_eq_error.mp refused with here | ⟨first, here, later⟩
    · cases naming : unroller.naming with
      | false =>
        rw [emitPart_unnamed naming] at here
        obtain ⟨before, part, reaches, refuses⟩ := ihBody here
        exact ⟨before, part, .inReference naming reaches, refuses⟩
      | true =>
        rcases (emitPart_named_eq_error naming).mp here with ⟨digit, rfl⟩ | ⟨nameable, inside⟩
        · exact ⟨used, _, .here, .badName naming digit⟩
        · obtain ⟨before, part, reaches, refuses⟩ := ihBody inside
          exact ⟨before, part, .inNamed naming nameable reaches, refuses⟩
    · obtain ⟨before, part, reaches, refuses⟩ := ih later
      exact ⟨before, part, .later here reaches, refuses⟩

/-- A tree that is written after some bytes is written after fewer. -/
theorem emit_of_le (tree : Tree) : ∀ {used less : Nat} {text : Text}, less ≤ used →
    unroller.emit used tree = .ok text → unroller.emit less tree = .ok text := by
  induction tree using Tree.induct with
  | nil =>
    intro used less text _ written
    rw [emit] at written ⊢
    exact written
  | plain run rest ih =>
    intro used less text fewer written
    obtain ⟨first, more, here, later, rfl⟩ := emit_cons_eq_ok.mp written
    rw [emitPart] at here
    exact emit_cons_eq_ok.mpr ⟨first, more, by rw [emitPart, here], ih (by omega) later, rfl⟩
  | group kind opening body repetition rest ihBody ih =>
    intro used less text fewer written
    obtain ⟨first, more, here, later, rfl⟩ := emit_cons_eq_ok.mp written
    obtain ⟨inner, inside, fits, same⟩ := emitPart_group_eq_ok.mp here
    have fits (bounded : repetition.isSome = true) :
        less + Text.byteLength first ≤ unroller.sizeLimit.toNat := by
      have bound := fits bounded
      omega
    exact emit_cons_eq_ok.mpr
      ⟨first, more, emitPart_group_eq_ok.mpr ⟨inner, inside, fits, same⟩, ih (by omega) later, rfl⟩
  | reference name body rest ihBody ih =>
    intro used less text fewer written
    obtain ⟨first, more, here, later, rfl⟩ := emit_cons_eq_ok.mp written
    refine emit_cons_eq_ok.mpr ⟨first, more, ?_, ih (by omega) later, rfl⟩
    cases naming : unroller.naming with
    | false =>
      rw [emitPart_unnamed naming] at here ⊢
      exact ihBody fewer here
    | true =>
      obtain ⟨nameable, inner, inside, same⟩ := (emitPart_named_eq_ok naming).mp here
      exact (emitPart_named_eq_ok naming).mpr ⟨nameable, inner, ihBody (by omega) inside, same⟩

/-- Two trees in a row are written one after the other. -/
theorem emit_append {second : Tree} (first : Tree) : ∀ {used : Nat} {text : Text},
    unroller.emit used (first ++ second) = .ok text →
      ∃ front back, unroller.emit used first = .ok front ∧
        unroller.emit (used + Text.byteLength front) second = .ok back ∧ front ++ back = text := by
  induction first with
  | nil =>
    intro used text written
    exact ⟨[], text, by rw [emit], written, rfl⟩
  | cons part rest ih =>
    intro used text written
    rw [List.cons_append] at written
    obtain ⟨front, later, here, more, rfl⟩ := emit_cons_eq_ok.mp written
    obtain ⟨middle, back, inside, after, rfl⟩ := ih more
    refine ⟨front ++ middle, back, emit_cons_eq_ok.mpr ⟨front, middle, here, inside, rfl⟩, ?_, ?_⟩
    · rwa [Text.byteLength_append, ← Nat.add_assoc]
    · rw [List.append_assoc]

/-- Unrolling writes the expansion of a tree or refuses a part it comes to, and trees that are
unrolled in a row are unrolled on their own. -/
theorem unroll_exact (unroller : Unroller) :
    (∀ tree text, unroller.unroll tree = .ok text → text = unroller.expansion tree) ∧
    (∀ tree refusal, unroller.unroll tree = .error refusal →
      ∃ before part, unroller.Reaches 0 tree before part ∧ unroller.RefusesAt before part refusal) ∧
    ∀ first second text, unroller.unroll (first ++ second) = .ok text →
      ∃ front back, unroller.unroll first = .ok front ∧ unroller.unroll second = .ok back ∧
        text = front ++ back := by
  refine ⟨fun tree text => eq_expansion_of_emit tree, fun tree refusal => refusesAt_of_emit tree, ?_⟩
  intro first second text written
  obtain ⟨front, back, inside, after, rfl⟩ := emit_append first written
  exact ⟨front, back, inside, emit_of_le second (Nat.zero_le _) after, rfl⟩

/-- An unroller whose limit leaves room for one unrolled `pair`. -/
def tight : Unroller := ⟨3, true, 8⟩

/-- A group that becomes a copy and an optional copy. -/
def pair : Part := .group .capturing ['('] [.plain ['x']] (some ⟨1, .atMost 2⟩)

theorem unroll_exact_tight :
    "(x)(x)?".toList = tight.expansion [pair] ∧
    (∃ before part, tight.Reaches 0 [pair, pair] before part ∧
      tight.RefusesAt before part (.tooLarge 8)) ∧
    (∃ before part, tight.Reaches 0 [pair, .reference ['1'] []] before part ∧
      tight.RefusesAt before part (.badAliasName ['1'])) ∧
    ∃ front back, tight.unroll [pair] = .ok front ∧ tight.unroll [.plain ['a']] = .ok back ∧
      "(x)(x)?a".toList = front ++ back := by
  obtain ⟨written, refused, split⟩ := unroll_exact tight
  refine ⟨written [pair] _ ?_, refused [pair, pair] _ ?_, refused [pair, .reference ['1'] []] _ ?_,
    split [pair] [.plain ['a']] _ ?_⟩
  all_goals decide +kernel

end Unroller

end GroupUnroll
