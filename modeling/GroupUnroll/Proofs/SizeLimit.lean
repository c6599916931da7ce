import GroupUnroll.Proofs.Expansion

/-! # What the size limit is compared with

Only a group with bounds compares a size with the limit: what is in its buffer together with all of its
copies. `Unroller.peak` is the greatest of these sizes, and a tree whose references can name groups is
refused just when its peak is beyond the limit. This is no comparison of the limit with the expansion.
Text behind the last group with bounds is never counted, so what is written can be longer than the limit.
What is copied no times is counted, so a tree can be refused that expands to next to nothing. Where neither
happens, in a tree that ends in a group with bounds and writes each of them, the peak is the length of the
expansion.
-/

namespace GroupUnroll

namespace Unroller

mutual

/-- The greatest size that is compared with the limit while a part is written after `used` bytes. -/
def peakOfPart (unroller : Unroller) (used : Nat) : Part → Nat
  | .plain _ => 0
  | .group _ opening body repetition =>
    let copies := unroller.repeated (opening ++ (unroller.expansion body ++ [')'])) repetition
    max (peak unroller (Text.byteLength opening) body)
      (if repetition.isSome then used + Text.byteLength copies else 0)
  | .reference name body =>
    if unroller.naming then peak unroller (used + Text.byteLength (namedOpening name)) body
    else peak unroller used body

/-- The greatest size that is compared with the limit while a tree is written after `used` bytes. -/
def peak (unroller : Unroller) (used : Nat) : Tree → Nat
  | [] => 0
  | part :: rest =>
    max (peakOfPart unroller used part)
      (peak unroller (used + Text.byteLength (unroller.expansionOfPart part)) rest)

end

mutual

/-- Whether every reference in a part that is to become a named group can name one. -/
def NameableIn (unroller : Unroller) : Part → Prop
  | .plain _ => True
  | .group _ _ body _ => Nameable unroller body
  | .reference name body =>
    (unroller.naming = true → name.head?.any Char.isDigit = false) ∧ Nameable unroller body

/-- Whether every reference in a tree that is to become a named group can name one. -/
def Nameable (unroller : Unroller) : Tree → Prop
  | [] => True
  | part :: rest => NameableIn unroller part ∧ Nameable unroller rest

end

mutual

/-- Whether every group in a part is written at least once. -/
def WritesAllIn (unroller : Unroller) : Part → Prop
  | .plain _ => True
  | .group _ _ body repetition =>
    (∀ bounds, repetition = some bounds →
      1 ≤ max bounds.min.toNat (bounds.max.orCeiling unroller.ceiling).toNat) ∧ WritesAll unroller body
  | .reference _ body => WritesAll unroller body

/-- Whether every group in a tree is written at least once. -/
def WritesAll (unroller : Unroller) : Tree → Prop
  | [] => True
  | part :: rest => WritesAllIn unroller part ∧ WritesAll unroller rest

end

/-- The answer to a text that leads to `size` bytes. -/
def limited (unroller : Unroller) (size : Nat) (text : Text) : Except Refusal Text :=
  if size ≤ unroller.sizeLimit.toNat then .ok text else .error (.tooLarge unroller.sizeLimit)

variable {unroller : Unroller} {used : Nat} {part : Part} {rest body : Tree} {text more opening name : Text}
  {kind : GroupKind} {repetition : Option Repetition}

theorem limited_eq_ok {size : Nat} : unroller.limited size text = .ok more ↔
    more = text ∧ size ≤ unroller.sizeLimit.toNat := by
  unfold limited
  split_ifs with fits <;> simp [fits, eq_comm]

theorem limited_eq_error {size : Nat} {refusal : Refusal} : unroller.limited size text = .error refusal ↔
    .tooLarge unroller.sizeLimit = refusal ∧ unroller.sizeLimit.toNat < size := by
  unfold limited
  split_ifs with fits <;> simp [fits, Nat.not_lt.mpr, Nat.not_le.mp]

theorem limited_of_le {size : Nat} (fits : size ≤ unroller.sizeLimit.toNat) :
    unroller.limited size text = .ok text := if_pos fits

theorem limited_of_lt {size : Nat} (exceeds : unroller.sizeLimit.toNat < size) :
    unroller.limited size text = .error (.tooLarge unroller.sizeLimit) := if_neg (Nat.not_le.mpr exceeds)

/-- Two texts one after the other are limited by the greater size. -/
theorem limited_append {first second : Nat} :
    (do let text ← unroller.limited first text
        let more ← unroller.limited second more
        return text ++ more) = unroller.limited (max first second) (text ++ more) := by
  rcases Nat.lt_or_ge unroller.sizeLimit.toNat first with exceeds | here
  · rw [limited_of_lt exceeds, limited_of_lt (Nat.lt_of_lt_of_le exceeds (Nat.le_max_left ..))]
    rfl
  rcases Nat.lt_or_ge unroller.sizeLimit.toNat second with exceeds | later
  · rw [limited_of_le here, limited_of_lt exceeds, limited_of_lt (Nat.lt_of_lt_of_le exceeds (Nat.le_max_right ..))]
    rfl
  · rw [limited_of_le here, limited_of_le later, limited_of_le (Nat.max_le.mpr ⟨here, later⟩)]
    rfl

/-! ## One part -/

theorem emitPart_group_limited {size : Nat}
    (inside : unroller.emit (Text.byteLength opening) body = unroller.limited size (unroller.expansion body)) :
    unroller.emitPart used (.group kind opening body repetition) =
      unroller.limited (max size (if repetition.isSome then used + Text.byteLength
          (unroller.repeated (opening ++ (unroller.expansion body ++ [')'])) repetition) else 0))
        (unroller.expansionOfPart (.group kind opening body repetition)) := by
  rw [emitPart_group, inside, expansionOfPart_group]
  rcases Nat.lt_or_ge unroller.sizeLimit.toNat size with exceeds | fits
  · rw [limited_of_lt exceeds, limited_of_lt (Nat.lt_of_lt_of_le exceeds (Nat.le_max_left ..))]
    rfl
  · rw [limited_of_le fits]
    change (if _ then Except.ok _ else _) = _
    cases repetition with
    | none => simp [limited, fits]
    | some bounds =>
      simp only [limited, Option.isSome_some, if_true, true_implies, Nat.max_le, fits, true_and]

theorem emitPart_reference_limited (nameable : unroller.naming = true → name.head?.any Char.isDigit = false)
    (inside : ∀ used, unroller.emit used body =
      unroller.limited (unroller.peak used body) (unroller.expansion body)) :
    unroller.emitPart used (.reference name body) =
      unroller.limited (unroller.peakOfPart used (.reference name body))
        (unroller.expansionOfPart (.reference name body)) := by
  cases naming : unroller.naming with
  | false =>
    rw [emitPart_unnamed naming, inside, peakOfPart, expansionOfPart]
    simp only [naming, Bool.false_eq_true, ↓reduceIte]
  | true =>
    rw [emitPart_named naming, inside, peakOfPart, expansionOfPart]
    simp only [naming, nameable naming, Bool.false_eq_true, ↓reduceIte]
    unfold limited
    split <;> rfl

/-! ## A tree -/

/-- A tree is written as its expansion unless its peak is beyond the limit. -/
theorem emit_eq_limited (tree : Tree) : unroller.Nameable tree →
    ∀ used, unroller.emit used tree = unroller.limited (unroller.peak used tree) (unroller.expansion tree) := by
  -- what is written for the first part is its expansion, so the later parts are written behind as many bytes
  have step {part : Part} {rest : Tree} (first : ∀ used, unroller.emitPart used part =
        unroller.limited (unroller.peakOfPart used part) (unroller.expansionOfPart part))
      (later : ∀ used, unroller.emit used rest =
        unroller.limited (unroller.peak used rest) (unroller.expansion rest)) (used : Nat) :
      unroller.emit used (part :: rest) =
        unroller.limited (unroller.peak used (part :: rest)) (unroller.expansion (part :: rest)) := by
    rw [emit, first, peak, expansion_cons, ← limited_append]
    rcases Nat.lt_or_ge unroller.sizeLimit.toNat (unroller.peakOfPart used part) with exceeds | fits
    · rw [limited_of_lt exceeds]
      rfl
    · rw [limited_of_le fits]
      exact congrArg (fun answer => answer >>= fun more => pure (_ ++ more)) (later _)
  induction tree using Tree.induct with
  | nil =>
    intro _ used
    rw [emit, peak, expansion_nil, limited_of_le (Nat.zero_le _)]
  | plain run rest ih =>
    intro nameable
    rw [Nameable] at nameable
    apply step _ (ih nameable.2)
    intro used
    rw [emitPart, peakOfPart, expansionOfPart_plain, limited_of_le (Nat.zero_le _)]
  | group kind opening body repetition rest ihBody ih =>
    intro nameable
    rw [Nameable, NameableIn] at nameable
    apply step _ (ih nameable.2)
    intro used
    rw [emitPart_group_limited (ihBody nameable.1 _), peakOfPart]
  | reference name body rest ihBody ih =>
    intro nameable
    rw [Nameable, NameableIn] at nameable
    apply step _ (ih nameable.2)
    intro used
    exact emitPart_reference_limited nameable.1.1 (ihBody nameable.1.2)

/-- What is written has no reference that was to become a named group and could not. -/
theorem nameable_of_emit (tree : Tree) : ∀ {used : Nat} {text : Text},
    unroller.emit used tree = .ok text → unroller.Nameable tree := by
  induction tree using Tree.induct with
  | nil =>
    intro _ _ _
    rw [Nameable]
    trivial
  | plain run rest ih =>
    intro _ _ written
    obtain ⟨_, _, _, later, -⟩ := emit_cons_eq_ok.mp written
    rw [Nameable, NameableIn]
    exact ⟨trivial, ih later⟩
  | group kind opening body repetition rest ihBody ih =>
    intro _ _ written
    obtain ⟨_, _, here, later, -⟩ := emit_cons_eq_ok.mp written
    obtain ⟨_, inside, -⟩ := emitPart_group_eq_ok.mp here
    rw [Nameable, NameableIn]
    exact ⟨ihBody inside, ih later⟩
  | reference name body rest ihBody ih =>
    intro _ _ written
    obtain ⟨_, _, here, later, -⟩ := emit_cons_eq_ok.mp written
    rw [Nameable, NameableIn]
    cases naming : unroller.naming with
    | false =>
      rw [emitPart_unnamed naming] at here
      exact ⟨⟨nofun, ihBody here⟩, ih later⟩
    | true =>
      obtain ⟨nameable, _, inside, -⟩ := (emitPart_named_eq_ok naming).mp here
      exact ⟨⟨fun _ => nameable, ihBody inside⟩, ih later⟩

/-- Further on in the buffer, the same is written unless it is too large there. -/
theorem emit_elsewhere {tree : Tree} {less : Nat} (written : unroller.emit less tree = .ok text) (used : Nat) :
    unroller.emit used tree = .ok text ∨ unroller.emit used tree = .error (.tooLarge unroller.sizeLimit) := by
  obtain rfl := eq_expansion_of_emit tree written
  rw [emit_eq_limited tree (nameable_of_emit tree written), limited]
  split_ifs
  · exact .inl rfl
  · exact .inr rfl

/-- No size is compared that is greater than the expansion if each group is written. -/
theorem peak_le (tree : Tree) : unroller.WritesAll tree →
    ∀ used, unroller.peak used tree ≤ used + Text.byteLength (unroller.expansion tree) := by
  have step {part : Part} {rest : Tree} {used : Nat}
      (first : unroller.peakOfPart used part ≤ used + Text.byteLength (unroller.expansionOfPart part))
      (later : ∀ used, unroller.peak used rest ≤ used + Text.byteLength (unroller.expansion rest)) :
      unroller.peak used (part :: rest) ≤ used + Text.byteLength (unroller.expansion (part :: rest)) := by
    have behind := later (used + Text.byteLength (unroller.expansionOfPart part))
    rw [peak, expansion_cons, Text.byteLength_append]
    omega
  induction tree using Tree.induct with
  | nil =>
    intro _ used
    rw [peak]
    exact Nat.zero_le _
  | plain run rest ih =>
    intro written used
    rw [WritesAll] at written
    apply step _ (ih written.2)
    rw [peakOfPart]
    exact Nat.zero_le _
  | group kind opening body repetition rest ihBody ih =>
    intro written used
    rw [WritesAll, WritesAllIn] at written
    apply step _ (ih written.2)
    have inside := ihBody written.1.2 (Text.byteLength opening)
    rw [peakOfPart, expansionOfPart_group]
    cases repetition with
    | none =>
      simp only [repeated, Text.byteLength_append, Option.isSome_none, Bool.false_eq_true, if_false]
      omega
    | some bounds =>
      obtain ⟨more, copies⟩ := repeated_eq_append (opening ++ (unroller.expansion body ++ [')']))
        (written.1.1 bounds rfl)
      simp only [copies, Text.byteLength_append, Option.isSome_some, if_true]
      omega
  | reference name body rest ihBody ih =>
    intro written used
    rw [WritesAll, WritesAllIn] at written
    apply step _ (ih written.2)
    rw [peakOfPart, expansionOfPart]
    cases naming : unroller.naming with
    | false => simpa using ihBody written.1 used
    | true =>
      have inside := ihBody written.1 (used + Text.byteLength (namedOpening name))
      simp only [↓reduceIte, Text.byteLength_append]
      omega

/-- Whatever stands up to a group with bounds is compared together with its copies. -/
theorem le_peak {back : Tree} {bounds : Repetition} (front : Tree) : ∀ used,
    used + Text.byteLength (unroller.expansion (front ++ [.group kind opening body (some bounds)])) ≤
      unroller.peak used (front ++ .group kind opening body (some bounds) :: back) := by
  induction front with
  | nil =>
    intro used
    simp only [List.nil_append, expansion_cons, expansion_nil, List.append_nil, expansionOfPart_group, peak,
      peakOfPart, Option.isSome_some, if_true]
    omega
  | cons part front ih =>
    intro used
    have behind := ih (used + Text.byteLength (unroller.expansionOfPart part))
    rw [List.cons_append, List.cons_append, expansion_cons, Text.byteLength_append, peak]
    omega

/-- A tree is refused just when its peak is beyond the limit. A refused tree is as large as that if each of
its groups is written, and a tree as large as that is refused if a group with bounds ends it. -/
theorem unroll_limit {tree : Tree} (nameable : unroller.Nameable tree) :
    (∀ text, unroller.unroll tree = .ok text ↔
      text = unroller.expansion tree ∧ unroller.peak 0 tree ≤ unroller.sizeLimit.toNat) ∧
    (∀ refusal, unroller.unroll tree = .error refusal ↔
      .tooLarge unroller.sizeLimit = refusal ∧ unroller.sizeLimit.toNat < unroller.peak 0 tree) ∧
    (unroller.WritesAll tree → unroller.peak 0 tree ≤ Text.byteLength (unroller.expansion tree)) ∧
    (∀ front kind opening body bounds back, tree = front ++ .group kind opening body (some bounds) :: back →
      Text.byteLength (unroller.expansion (front ++ [.group kind opening body (some bounds)])) ≤
        unroller.peak 0 tree) ∧
    ∀ front kind opening body bounds, unroller.WritesAll tree →
      tree = front ++ [.group kind opening body (some bounds)] →
        (unroller.unroll tree = .error (.tooLarge unroller.sizeLimit) ↔
          unroller.sizeLimit.toNat < Text.byteLength (unroller.expansion tree)) ∧
        ∀ text, unroller.unroll tree = .ok text → Text.byteLength text ≤ unroller.sizeLimit.toNat := by
  have written : unroller.unroll tree = unroller.limited (unroller.peak 0 tree) (unroller.expansion tree) :=
    emit_eq_limited tree nameable 0
  have most (all : unroller.WritesAll tree) :
      unroller.peak 0 tree ≤ Text.byteLength (unroller.expansion tree) := by
    have bound := peak_le tree all 0
    rwa [Nat.zero_add] at bound
  refine ⟨fun text => written ▸ limited_eq_ok, fun refusal => written ▸ limited_eq_error, most, ?_, ?_⟩
  · rintro front kind opening body bounds back rfl
    rw [← Nat.zero_add (Text.byteLength _)]
    exact le_peak front 0
  · rintro front kind opening body bounds all rfl
    have least : Text.byteLength (unroller.expansion (front ++ [.group kind opening body (some bounds)])) ≤
        unroller.peak 0 (front ++ [.group kind opening body (some bounds)]) := by
      rw [← Nat.zero_add (Text.byteLength _)]
      exact le_peak front 0
    have length := Nat.le_antisymm (most all) least
    rw [written, ← length]
    constructor
    · rw [limited_eq_error, eq_self_iff_true, true_and]
    · intro text answered
      obtain ⟨rfl, fits⟩ := limited_eq_ok.mp answered
      rwa [← length]

theorem unroll_limit_twice :
    tight.Nameable [pair, pair] ∧ tight.WritesAll [pair, pair] ∧
      tight.unroll [pair, pair] = .error (.tooLarge 8) ∧
      8 < Text.byteLength (tight.expansion [pair, pair]) := by
  have nameable : tight.Nameable [pair, pair] := by simp [Nameable, NameableIn, pair]
  have once (bounds : Repetition) (same : some ⟨1, .atMost 2⟩ = some bounds) :
      1 ≤ max bounds.min.toNat (bounds.max.orCeiling tight.ceiling).toNat := by
    obtain rfl := Option.some.inj same
    decide
  have written : tight.WritesAll [pair, pair] := by
    simp only [WritesAll, WritesAllIn, pair, and_true]
    exact ⟨once, once⟩
  have refused : tight.unroll [pair, pair] = .error (.tooLarge 8) := by decide +kernel
  obtain ⟨exact, -⟩ := (unroll_limit nameable).2.2.2.2 [pair] _ _ _ _ written rfl
  exact ⟨nameable, written, refused, exact.mp refused⟩

/-- The limit is no bound on the expansion in either direction: text that no group with bounds follows is
written however long it is, and a group that is copied no times is refused for what is in it. -/
theorem unroll_limit_ne_length :
    (⟨12, false, 1⟩ : Unroller).unroll [.plain ['a', 'b']] = .ok ['a', 'b'] ∧
      1 < Text.byteLength ((⟨12, false, 1⟩ : Unroller).expansion [.plain ['a', 'b']]) ∧
      (⟨12, false, 5⟩ : Unroller).unroll [.group .capturing ['('] [pair] (some ⟨0, .atMost 0⟩)] =
        .error (.tooLarge 5) ∧
      Text.byteLength ((⟨12, false, 5⟩ : Unroller).expansion
        [.group .capturing ['('] [pair] (some ⟨0, .atMost 0⟩)]) ≤ 5 := by
  decide +kernel

end Unroller

end GroupUnroll
