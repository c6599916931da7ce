import GroupUnroll.Proofs.Expansion

/-! # Higher ceilings and greater limits

The ceiling decides how many optional copies a group without an upper bound gets, and the limit decides nothing but
what is refused. So a lower ceiling never writes anything that the higher one does not write at the same place, and
whatever is written within a limit is written within a greater one. A copy that gets shorter gets shorter in every
group around it, and the buffers that are compared with the limit with it; `Unroller.Milder.emit_shortens` carries
this through a tree.
-/

namespace GroupUnroll

mutual

/-- The bounds of the groups in a part. -/
def Part.repetitions : Part → List Repetition
  | .plain _ => []
  | .group _ _ body repetition => repetition.toList ++ Tree.repetitions body
  | .reference _ body => Tree.repetitions body

/-- The bounds of the groups in a tree, those in the bodies of references included. -/
def Tree.repetitions : Tree → List Repetition
  | [] => []
  | part :: rest => Part.repetitions part ++ Tree.repetitions rest

end

theorem Text.byteLength_le_of_sublist {shorter text : Text} (sublist : shorter.Sublist text) :
    byteLength shorter ≤ byteLength text := by
  induction sublist with
  | slnil => exact Nat.le_refl _
  | cons c _ ih =>
    rw [byteLength_cons]
    omega
  | cons_cons c _ ih =>
    rw [byteLength_cons, byteLength_cons]
    omega

namespace Unroller

/-- The first unroller writes at most as many optional copies as the second, names references only if the second
does, and is limited at most as much. -/
structure Milder (first second : Unroller) : Prop where
  ceiling : first.ceiling ≤ second.ceiling
  naming : first.naming = true → second.naming = true
  sizeLimit : second.sizeLimit ≤ first.sizeLimit

variable {first second : Unroller}

namespace Milder

theorem optionalCount_le (milder : Milder first second) (repetition : Repetition) :
    repetition.optionalCount first.ceiling ≤ repetition.optionalCount second.ceiling := by
  have ceiling := UInt64.le_iff_toNat_le.mp milder.ceiling
  unfold Repetition.optionalCount
  cases repetition.max with
  | atMost count => exact Int.le_refl _
  | unbounded =>
    simp only [UpperBound.orCeiling]
    omega

/-- Fewer copies of a shorter text are written within more copies of a longer one. -/
theorem flatten_replicate_sublist {shorter text : Text} (sublist : shorter.Sublist text) {fewer count : Nat}
    (le : fewer ≤ count) : (List.replicate fewer shorter).flatten.Sublist (List.replicate count text).flatten := by
  induction fewer generalizing count with
  | zero => exact List.nil_sublist _
  | succ fewer ih =>
    obtain ⟨count, rfl⟩ := Nat.exists_eq_add_of_le' le
    rw [← Nat.add_assoc, List.replicate_succ, List.replicate_succ, List.flatten_cons, List.flatten_cons]
    exact sublist.append (ih (by omega))

theorem repeated_sublist (milder : Milder first second) {shorter copy : Text}
    (sublist : shorter.Sublist copy) (repetition : Option Repetition) :
    (first.repeated shorter repetition).Sublist (second.repeated copy repetition) := by
  cases repetition with
  | none => exact sublist
  | some repetition =>
    rw [repeated, repeated]
    have optional := Int.toNat_le_toNat (milder.optionalCount_le repetition)
    exact (flatten_replicate_sublist sublist (Nat.le_refl _)).append
      (flatten_replicate_sublist (sublist.append_right _) optional)

end Milder

/-- What `longer` answers, `shorter` answers as well, with some characters left out. -/
def Shortens (shorter longer : Except Refusal Text) : Prop :=
  ∀ text, longer = .ok text → ∃ less, shorter = .ok less ∧ less.Sublist text

/-- What the second unroller writes after `used` bytes, the first writes after as many or fewer, but for some
optional copies and some of what names references. -/
theorem Milder.emit_shortens (milder : Milder first second) (tree : Tree) :
    ∀ used less, less ≤ used → Shortens (first.emit less tree) (second.emit used tree) := by
  have limit := UInt64.le_iff_toNat_le.mp milder.sizeLimit
  -- a part that gets shorter leaves the parts behind it a shorter buffer
  have step {part : Part} {rest : Tree}
      (here : ∀ used less, less ≤ used → Shortens (first.emitPart less part) (second.emitPart used part))
      (later : ∀ used less, less ≤ used → Shortens (first.emit less rest) (second.emit used rest)) :
      ∀ used less, less ≤ used → Shortens (first.emit less (part :: rest)) (second.emit used (part :: rest)) := by
    intro used less fewer text written
    obtain ⟨front, back, wrote, more, rfl⟩ := emit_cons_eq_ok.mp written
    obtain ⟨front', wrote', sublist⟩ := here used less fewer front wrote
    have shorter := Text.byteLength_le_of_sublist sublist
    obtain ⟨back', more', sublist'⟩ := later _ _ (Nat.add_le_add fewer shorter) back more
    exact ⟨front' ++ back', emit_cons_eq_ok.mpr ⟨front', back', wrote', more', rfl⟩, sublist.append sublist'⟩
  induction tree using Tree.induct with
  | nil =>
    intro used less _ text written
    rw [emit] at written ⊢
    exact ⟨text, written, List.Sublist.refl _⟩
  | plain run rest ih =>
    refine step (fun used less _ text wrote => ?_) ih
    rw [emitPart] at wrote ⊢
    exact ⟨text, wrote, List.Sublist.refl _⟩
  | group kind opening body repetition rest ihBody ih =>
    refine step (fun used less fewer text wrote => ?_) ih
    obtain ⟨inner, inside, fits, rfl⟩ := emitPart_group_eq_ok.mp wrote
    obtain ⟨inner', inside', sublist⟩ := ihBody _ _ (Nat.le_refl _) inner inside
    have copies := milder.repeated_sublist ((sublist.append_right [')']).append_left opening) repetition
    have shorter := Text.byteLength_le_of_sublist copies
    refine ⟨_, emitPart_group_eq_ok.mpr ⟨inner', inside', fun bounded => ?_, rfl⟩, copies⟩
    have fits := fits bounded
    omega
  | reference name body rest ihBody ih =>
    refine step (fun used less fewer text wrote => ?_) ih
    cases naming : second.naming with
    | false =>
      have unnamed : first.naming = false := Bool.eq_false_iff.mpr fun named =>
        absurd (naming.symm.trans (milder.naming named)) (by decide)
      rw [emitPart_unnamed naming] at wrote
      rw [emitPart_unnamed unnamed]
      exact ihBody used less fewer text wrote
    | true =>
      obtain ⟨nameable, inner, inside, rfl⟩ := (emitPart_named_eq_ok naming).mp wrote
      cases named : first.naming with
      | false =>
        obtain ⟨inner', inside', sublist⟩ := ihBody _ less (Nat.le_add_right_of_le fewer) inner inside
        rw [emitPart_unnamed named]
        have within := sublist.trans (List.sublist_append_left inner [')'])
        exact ⟨inner', inside', within.trans (List.sublist_append_right _ _)⟩
      | true =>
        obtain ⟨inner', inside', sublist⟩ := ihBody _ _ (Nat.add_le_add_right fewer _) inner inside
        refine ⟨_, (emitPart_named_eq_ok named).mpr ⟨nameable, inner', inside', rfl⟩, ?_⟩
        exact (sublist.append_right _).append_left _

/-- The first unroller writes at most as many optional copies as the second, and is limited at most as much; they
name references alike. -/
structure Below (first second : Unroller) : Prop where
  ceiling : first.ceiling ≤ second.ceiling
  naming : first.naming = second.naming
  sizeLimit : second.sizeLimit ≤ first.sizeLimit

theorem emit_shortens (below : Below first second) (tree : Tree) :
    ∀ used less, less ≤ used → Shortens (first.emit less tree) (second.emit used tree) :=
  Milder.emit_shortens ⟨below.ceiling, fun named => below.naming ▸ named, below.sizeLimit⟩ tree

/-! ## Unrollers that agree -/

/-- Unrollers that name references alike and write as many copies of each group in a tree. -/
structure Agree (first second : Unroller) (tree : Tree) : Prop where
  naming : first.naming = second.naming
  copies : ∀ bounds ∈ tree.repetitions, bounds.optionalCount first.ceiling = bounds.optionalCount second.ceiling

namespace Agree

variable {kind : GroupKind} {opening name : Text} {body rest : Tree} {part : Part} {repetition : Option Repetition}

theorem tail (agree : Agree first second (part :: rest)) : Agree first second rest := by
  refine ⟨agree.naming, fun bounds member => agree.copies bounds ?_⟩
  rw [Tree.repetitions]
  exact List.mem_append_right _ member

theorem body_of_group (agree : Agree first second (.group kind opening body repetition :: rest)) :
    Agree first second body := by
  refine ⟨agree.naming, fun bounds member => agree.copies bounds ?_⟩
  rw [Tree.repetitions, Part.repetitions]
  exact List.mem_append_left _ (List.mem_append_right _ member)

theorem body_of_reference (agree : Agree first second (.reference name body :: rest)) : Agree first second body := by
  refine ⟨agree.naming, fun bounds member => agree.copies bounds ?_⟩
  rw [Tree.repetitions, Part.repetitions]
  exact List.mem_append_left _ member

theorem repeated_eq (agree : Agree first second (.group kind opening body repetition :: rest)) (copy : Text) :
    first.repeated copy repetition = second.repeated copy repetition := by
  cases repetition with
  | none => rfl
  | some bounds =>
    have copies := agree.copies bounds (by simp [Tree.repetitions, Part.repetitions])
    rw [repeated, repeated, copies]

/-- The limit does not matter to what a tree expands to. -/
theorem expansion_eq (tree : Tree) : Agree first second tree → first.expansion tree = second.expansion tree := by
  induction tree using Tree.induct with
  | nil => exact fun _ => by rw [expansion_nil, expansion_nil]
  | plain run rest ih =>
    intro agree
    rw [expansion_cons, expansion_cons, expansionOfPart_plain, expansionOfPart_plain, ih agree.tail]
  | group kind opening body repetition rest ihBody ih =>
    intro agree
    rw [expansion_cons, expansion_cons, expansionOfPart_group, expansionOfPart_group, ihBody agree.body_of_group,
      ih agree.tail, agree.repeated_eq]
  | reference name body rest ihBody ih =>
    intro agree
    rw [expansion_cons, expansion_cons, expansionOfPart, expansionOfPart, ihBody agree.body_of_reference,
      ih agree.tail, agree.naming]

/-- At one limit, what is written and what is refused is the same. -/
theorem emit_eq (limit : first.sizeLimit = second.sizeLimit) (tree : Tree) :
    Agree first second tree → ∀ used, first.emit used tree = second.emit used tree := by
  have step {part : Part} {rest : Tree} (here : ∀ used, first.emitPart used part = second.emitPart used part)
      (later : ∀ used, first.emit used rest = second.emit used rest) (used : Nat) :
      first.emit used (part :: rest) = second.emit used (part :: rest) := by
    rw [emit, emit, here]
    simp only [later]
  induction tree using Tree.induct with
  | nil => exact fun _ used => by rw [emit, emit]
  | plain run rest ih =>
    intro agree
    exact step (fun used => by rw [emitPart, emitPart]) (ih agree.tail)
  | group kind opening body repetition rest ihBody ih =>
    intro agree
    refine step (fun used => ?_) (ih agree.tail)
    rw [emitPart_group, emitPart_group, ihBody agree.body_of_group, limit]
    simp only [agree.repeated_eq]
  | reference name body rest ihBody ih =>
    intro agree
    refine step (fun used => ?_) (ih agree.tail)
    rw [emitPart, emitPart, agree.naming]
    simp only [ihBody agree.body_of_reference]

end Agree

/-- A tree that is unrolled with a ceiling is unrolled with a lower one, with some characters left out; a tree that
is unrolled within a limit is unrolled to the same text within a greater one; and a tree whose groups all have an
upper bound or no bounds is unrolled alike, or refused alike, with every ceiling. -/
theorem unroll_monotone (tree : Tree) (naming : Bool) {lower higher : UInt64} (ceiling : lower ≤ higher)
    {tighter wider : UInt64} (limit : tighter ≤ wider) :
    (∀ text, (⟨higher, naming, tighter⟩ : Unroller).unroll tree = .ok text →
      ∃ shorter, (⟨lower, naming, tighter⟩ : Unroller).unroll tree = .ok shorter ∧
        Text.byteLength shorter ≤ Text.byteLength text ∧ shorter.Sublist text) ∧
    (∀ text, (⟨lower, naming, tighter⟩ : Unroller).unroll tree = .ok text →
      (⟨lower, naming, wider⟩ : Unroller).unroll tree = .ok text) ∧
    ((∀ bounds ∈ tree.repetitions, bounds.max ≠ .unbounded) →
      (⟨lower, naming, tighter⟩ : Unroller).unroll tree = (⟨higher, naming, tighter⟩ : Unroller).unroll tree) := by
  refine ⟨fun text written => ?_, fun text written => ?_, fun bounded => ?_⟩
  · have below : Below ⟨lower, naming, tighter⟩ ⟨higher, naming, tighter⟩ := ⟨ceiling, rfl, UInt64.le_refl _⟩
    obtain ⟨shorter, wrote, sublist⟩ := emit_shortens below tree 0 0 (Nat.le_refl _) text written
    exact ⟨shorter, wrote, Text.byteLength_le_of_sublist sublist, sublist⟩
  · have below : Below ⟨lower, naming, wider⟩ ⟨lower, naming, tighter⟩ := ⟨UInt64.le_refl _, rfl, limit⟩
    have agree : Agree ⟨lower, naming, wider⟩ ⟨lower, naming, tighter⟩ tree := ⟨rfl, fun _ _ => rfl⟩
    obtain ⟨shorter, wrote, -⟩ := emit_shortens below tree 0 0 (Nat.le_refl _) text written
    rw [eq_expansion_of_emit tree written, ← Agree.expansion_eq tree agree, ← eq_expansion_of_emit tree wrote]
    exact wrote
  · have agree : Agree ⟨lower, naming, tighter⟩ ⟨higher, naming, tighter⟩ tree := by
      refine ⟨rfl, fun bounds member => ?_⟩
      cases upper : bounds.max with
      | atMost count => simp only [Repetition.optionalCount, upper, UpperBound.orCeiling]
      | unbounded => exact absurd upper (bounded bounds member)
    refine Agree.emit_eq ?_ tree agree 0
    rfl

/-- A group without an upper bound in another. -/
def nested : Part :=
  .group .capturing ['('] [.group .capturing ['('] [.plain ['x']] (some ⟨1, .unbounded⟩)] (some ⟨1, .unbounded⟩)

/-- A group without an upper bound in one without an upper bound, which a narrower limit refuses with the higher
ceiling, and a group with an upper bound that is refused with both. -/
theorem unroll_monotone_nested :
    (⟨2, false, 40⟩ : Unroller).unroll [nested] = .ok "((x)(x)?)((x)(x)?)?".toList ∧
    (⟨1, false, 40⟩ : Unroller).unroll [nested] = .ok "((x))".toList ∧
    Text.byteLength "((x))".toList ≤ Text.byteLength "((x)(x)?)((x)(x)?)?".toList ∧
    "((x))".toList.Sublist "((x)(x)?)((x)(x)?)?".toList ∧
    (⟨1, false, 100⟩ : Unroller).unroll [nested] = .ok "((x))".toList ∧
    (⟨2, false, 18⟩ : Unroller).unroll [nested] = .error (.tooLarge 18) ∧
    (⟨1, true, 8⟩ : Unroller).unroll [pair, pair] = (⟨3, true, 8⟩ : Unroller).unroll [pair, pair] ∧
    (⟨3, true, 8⟩ : Unroller).unroll [pair, pair] = .error (.tooLarge 8) := by
  have longer : (⟨2, false, 40⟩ : Unroller).unroll [nested] = .ok "((x)(x)?)((x)(x)?)?".toList := by decide +kernel
  have written : (⟨1, false, 40⟩ : Unroller).unroll [nested] = .ok "((x))".toList := by decide +kernel
  obtain ⟨shortens, widens, -⟩ := unroll_monotone [nested] false (show (1 : UInt64) ≤ 2 by decide)
    (show (40 : UInt64) ≤ 100 by decide)
  obtain ⟨-, -, bounded⟩ := unroll_monotone [pair, pair] true (show (1 : UInt64) ≤ 3 by decide)
    (UInt64.le_refl 8)
  obtain ⟨shorter, wrote, less, sublist⟩ := shortens _ longer
  obtain rfl := Except.ok.inj (wrote.symm.trans written)
  exact ⟨longer, written, less, sublist, widens _ written, by decide +kernel, bounded (by decide +kernel),
    by decide +kernel⟩

end Unroller

end GroupUnroll
