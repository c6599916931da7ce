import GroupUnroll.Proofs.SizeLimit

/-! # The size of copies, exactly and in words

Before the copies of a group are written, the size that they take the buffer to is computed in words.
Each product and each sum is checked, and the number of optional copies goes down to zero and no further.
`Unroller.grownSize` is the same size in integers. No step of the words decides anything else: they arrive at
the size in integers where it is within the limit, and at nothing where it is not.
-/

namespace GroupUnroll

/-! ## Checked words -/

/-- The product of two words, if it is a word. -/
def wordProduct? (first second : UInt64) : Option UInt64 :=
  if first.toNat * second.toNat < UInt64.size then some (first * second) else none

/-- The sum of two words, if it is a word. -/
def wordSum? (first second : UInt64) : Option UInt64 :=
  if first.toNat + second.toNat < UInt64.size then some (first + second) else none

/-- How much greater the first word is, or zero. -/
def wordExcess (first second : UInt64) : UInt64 := if second ≤ first then first - second else 0

section Words

variable (first second : UInt64)

theorem map_wordProduct? :
    (wordProduct? first second).map UInt64.toNat = checkedSize? (first.toNat * second.toNat) := by
  unfold wordProduct? checkedSize?
  split_ifs with fits
  · rw [Option.map_some, UInt64.toNat_mul, Nat.mod_eq_of_lt fits]
  · rfl

theorem map_wordSum? :
    (wordSum? first second).map UInt64.toNat = checkedSize? (first.toNat + second.toNat) := by
  unfold wordSum? checkedSize?
  split_ifs with fits
  · rw [Option.map_some, UInt64.toNat_add, Nat.mod_eq_of_lt fits]
  · rfl

theorem toNat_wordExcess : (wordExcess first second).toNat = first.toNat - second.toNat := by
  unfold wordExcess
  split_ifs with le
  · exact UInt64.toNat_sub_of_le _ _ le
  · rw [UInt64.le_iff_toNat_le] at le
    rw [Nat.sub_eq_zero_of_le (Nat.le_of_not_le le)]
    rfl

end Words

/-- Steps in words that are steps in natural numbers one by one are so in a row. -/
theorem map_toNat_bind {word : Option UInt64} {size : Option Nat} {next : UInt64 → Option UInt64}
    {later : Nat → Option Nat} (first : word.map UInt64.toNat = size)
    (second : ∀ word, (next word).map UInt64.toNat = later word.toNat) :
    (word >>= next).map UInt64.toNat = size >>= later := by
  subst first
  cases word with
  | none => rfl
  | some word => exact second word

namespace Unroller

/-- The size in words of a buffer of `used` bytes once the copies of a group are behind it, if no step leaves
the word and the limit is not exceeded. -/
def grownWord? (unroller : Unroller) (used copySize : UInt64) (repetition : Repetition) : Option UInt64 := do
  let optional := wordExcess (repetition.max.orCeiling unroller.ceiling) repetition.min
  let required ← wordProduct? copySize repetition.min
  let extra ← wordProduct? (copySize + 1) optional
  let added ← wordSum? required extra
  let grown ← wordSum? added used
  if grown ≤ unroller.sizeLimit then some grown else none

/-- The size in integers of a buffer once the copies of a group are behind it. -/
def grownSize (unroller : Unroller) (buffer copy : Text) (repetition : Repetition) : Int :=
  Text.byteLength buffer + Text.byteLength copy * repetition.min.toNat +
    (Text.byteLength copy + 1) * repetition.optionalCount unroller.ceiling

variable {unroller : Unroller} {buffer copy : Text} {repetition : Repetition}

theorem grownSize_eq : unroller.grownSize buffer copy repetition =
    (Text.byteLength (buffer ++ unroller.repeated copy (some repetition)) : Nat) := by
  have optional : (repetition.optionalCount unroller.ceiling) = (repetition.optionalCopies unroller.ceiling : Nat) := by
    rw [← Repetition.toNat_optionalCount]
    exact (Int.toNat_of_nonneg (Int.le_max_left ..)).symm
  rw [grownSize, optional, Text.byteLength_append, repeated_eq_copies, byteLength_copies]
  push_cast
  rw [Int.add_assoc]

/-- The steps in words are the steps in natural numbers. -/
theorem map_grownWord? (used copySize : UInt64) (room : copySize.toNat + 1 < UInt64.size) :
    (unroller.grownWord? used copySize repetition).map UInt64.toNat =
      unrolledSize? used.toNat copySize.toNat repetition.min.toNat
          (repetition.optionalCopies unroller.ceiling) >>= fun size =>
        if size ≤ unroller.sizeLimit.toNat then some size else none := by
  have next : (copySize + 1).toNat = copySize.toNat + 1 := by
    rw [UInt64.toNat_add]
    exact Nat.mod_eq_of_lt room
  unfold unrolledSize? grownWord?
  simp only [bind_assoc]
  refine map_toNat_bind (map_wordProduct? _ _) fun required => ?_
  refine map_toNat_bind ?_ fun extra => ?_
  · rw [map_wordProduct?, next, toNat_wordExcess]
    rfl
  refine map_toNat_bind (map_wordSum? _ _) fun added => ?_
  refine map_toNat_bind (map_wordSum? _ _) fun grown => ?_
  by_cases fits : grown ≤ unroller.sizeLimit
  · rw [if_pos fits, if_pos (UInt64.le_iff_toNat_le.mp fits)]
    rfl
  · rw [if_neg fits, if_neg (mt UInt64.le_iff_toNat_le.mpr fits)]
    rfl

/-- In words the size is the one of what is written, if it is within the limit. -/
theorem map_grownWord?_eq {used copySize : UInt64} (buffered : used.toNat = Text.byteLength buffer)
    (copied : copySize.toNat = Text.byteLength copy) (room : Text.byteLength copy + 1 < UInt64.size) :
    (unroller.grownWord? used copySize repetition).map UInt64.toNat =
      if Text.byteLength (buffer ++ unroller.repeated copy (some repetition)) ≤ unroller.sizeLimit.toNat then
        some (Text.byteLength (buffer ++ unroller.repeated copy (some repetition)))
      else none := by
  have limit : unroller.sizeLimit.toNat < UInt64.size := unroller.sizeLimit.toNat_lt_size
  rw [map_grownWord? used copySize (copied ▸ room), unrolledSize?_eq, buffered, copied, Text.byteLength_append,
    repeated_eq_copies, byteLength_copies]
  generalize Text.byteLength buffer + _ = size
  unfold checkedSize?
  by_cases word : size < UInt64.size
  · rw [if_pos word]
    rfl
  · rw [if_neg word, if_neg (by omega)]
    rfl

/-- In words there is a size just when it is within the limit, and it is the size in integers. -/
theorem grownWord?_exact {used copySize : UInt64} (buffered : used.toNat = Text.byteLength buffer)
    (copied : copySize.toNat = Text.byteLength copy) (room : Text.byteLength copy + 1 < UInt64.size) :
    (∀ grown, unroller.grownWord? used copySize repetition = some grown ↔
      (grown.toNat : Int) = unroller.grownSize buffer copy repetition ∧ grown ≤ unroller.sizeLimit) ∧
    (unroller.grownWord? used copySize repetition = none ↔
      unroller.sizeLimit.toNat < unroller.grownSize buffer copy repetition) := by
  have words : (unroller.grownWord? used copySize repetition).map UInt64.toNat = _ :=
    map_grownWord?_eq buffered copied room
  rw [grownSize_eq]
  generalize Text.byteLength (buffer ++ unroller.repeated copy (some repetition)) = size at words ⊢
  cases answer : unroller.grownWord? used copySize repetition with
  | none =>
    have exceeds : unroller.sizeLimit.toNat < size := by
      by_contra fits
      rw [answer, if_pos (Nat.not_lt.mp fits)] at words
      cases words
    refine ⟨fun grown => ⟨nofun, fun ⟨same, le⟩ => ?_⟩, ⟨fun _ => by omega, fun _ => rfl⟩⟩
    rw [UInt64.le_iff_toNat_le] at le
    omega
  | some word =>
    rw [answer, Option.map_some] at words
    split_ifs at words with fits
    obtain rfl := Option.some.inj words
    refine ⟨fun grown => ?_, ⟨nofun, fun exceeds => by omega⟩⟩
    rw [Option.some.injEq, Int.natCast_inj, UInt64.toNat_inj, UInt64.le_iff_toNat_le]
    constructor
    · rintro rfl
      exact ⟨rfl, fits⟩
    · exact fun ⟨same, _⟩ => same.symm

/-- A group with bounds whose copy has been written is refused just when its copies take the buffer past the limit,
and otherwise takes it to this size. Checking every product and sum in words decides the same. -/
theorem emitPart_grows {kind : GroupKind} {opening inner : Text} {body : Tree} (buffer : Text)
    (repetition : Repetition) (written : unroller.emit (Text.byteLength opening) body = .ok inner)
    (built : copy = opening ++ (inner ++ [')'])) :
    (∀ refusal, unroller.emitPart (Text.byteLength buffer) (.group kind opening body (some repetition)) =
        .error refusal ↔
      .tooLarge unroller.sizeLimit = refusal ∧
        unroller.sizeLimit.toNat < unroller.grownSize buffer copy repetition) ∧
    (∀ text, unroller.emitPart (Text.byteLength buffer) (.group kind opening body (some repetition)) = .ok text ↔
      text = unroller.repeated copy (some repetition) ∧
        unroller.grownSize buffer copy repetition ≤ unroller.sizeLimit.toNat) ∧
    (Text.byteLength (buffer ++ unroller.repeated copy (some repetition)) : Int) =
      unroller.grownSize buffer copy repetition ∧
    (Text.byteLength buffer < UInt64.size → Text.byteLength copy + 1 < UInt64.size →
      (∀ grown, unroller.grownWord? (.ofNat (Text.byteLength buffer)) (.ofNat (Text.byteLength copy)) repetition =
          some grown ↔
        (grown.toNat : Int) = unroller.grownSize buffer copy repetition ∧ grown ≤ unroller.sizeLimit) ∧
      (unroller.grownWord? (.ofNat (Text.byteLength buffer)) (.ofNat (Text.byteLength copy)) repetition = none ↔
        unroller.sizeLimit.toNat < unroller.grownSize buffer copy repetition)) := by
  have wrote : unroller.emitPart (Text.byteLength buffer) (.group kind opening body (some repetition)) =
      unroller.emitCopies (Text.byteLength buffer) copy repetition := by
    rw [emitPart, written, built]
    rfl
  have answered : unroller.emitPart (Text.byteLength buffer) (.group kind opening body (some repetition)) =
      unroller.limited (Text.byteLength (buffer ++ unroller.repeated copy (some repetition)))
        (unroller.repeated copy (some repetition)) := by
    rw [wrote, emitCopies_eq, ← Text.byteLength_append]
    rfl
  refine ⟨fun refusal => ?_, fun text => ?_, grownSize_eq.symm, fun shortBuffer shortCopy => ?_⟩
  · rw [answered, limited_eq_error, grownSize_eq, Int.ofNat_lt]
  · rw [answered, limited_eq_ok, grownSize_eq, Int.ofNat_le]
  · apply grownWord?_exact
    · exact UInt64.toNat_ofNat_of_lt shortBuffer
    · exact UInt64.toNat_ofNat_of_lt (by omega)
    · exact shortCopy

/-- An unroller that counts as far as words go. -/
def widest : Unroller := ⟨18446744073709551615, false, 18446744073709551615⟩

/-- Twice `(x)` and almost as many optional copies as a word can count, which no limit leaves room for; and at a
limit that leaves no byte to spare, twice `(x)` without any. -/
theorem emitPart_grows_widely :
    widest.emitPart 1 (.group .capturing ['('] [.plain ['x']] (some ⟨2, .unbounded⟩)) =
      .error (.tooLarge 18446744073709551615) ∧
    widest.grownWord? 1 3 ⟨2, .unbounded⟩ = none ∧
    (⟨1, false, 7⟩ : Unroller).emitPart 1 (.group .capturing ['('] [.plain ['x']] (some ⟨2, .unbounded⟩)) =
      .ok "(x)(x)".toList ∧
    (⟨1, false, 7⟩ : Unroller).grownWord? 1 3 ⟨2, .unbounded⟩ = some 7 := by
  have written (unroller : Unroller) : unroller.emit (Text.byteLength ['(']) [.plain ['x']] = .ok ['x'] := rfl
  have built : ['(', 'x', ')'] = ['('] ++ (['x'] ++ [')']) := rfl
  obtain ⟨refused, -, -, words⟩ := @emitPart_grows widest _ .capturing ['('] _ _ ['a'] ⟨2, .unbounded⟩
    (written widest) built
  obtain ⟨-, wrote, -, words'⟩ := @emitPart_grows ⟨1, false, 7⟩ _ .capturing ['('] _ _ ['a'] ⟨2, .unbounded⟩
    (written _) built
  refine ⟨(refused _).mpr ⟨rfl, by decide +kernel⟩, ?_, (wrote _).mpr ⟨by decide +kernel, by decide +kernel⟩, ?_⟩
  · exact (words (by decide) (by decide)).2.mpr (by decide +kernel)
  · exact ((words' (by decide) (by decide)).1 7).mpr (by decide +kernel)

end Unroller

end GroupUnroll
