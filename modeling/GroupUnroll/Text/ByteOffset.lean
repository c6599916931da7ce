import GroupUnroll.Text.Basic

/-! # Text by byte offsets

Offsets into a text count UTF-8 bytes, so not every number is one: an offset may be past the end or inside
a character. `fromByte?` answers for the offsets that are on a boundary of two characters or at an end, and
a slice exists where both of its ends are and do not cross. `fromByte?_eq_some_iff` says what stands at an
offset without counting: a part of the text that is this long goes before it.
-/

namespace GroupUnroll

namespace Text

/-- The text from a byte offset on, if the offset is on a boundary of characters. -/
def fromByte? : Text → (offset : Nat) → Option Text
  | text, 0 => some text
  | [], _ + 1 => none
  | c :: rest, offset + 1 =>
    if c.utf8Size ≤ offset + 1 then fromByte? rest (offset + 1 - c.utf8Size) else none

/-- The text between two byte offsets, if both are on boundaries and in order. -/
def slice? (text : Text) (start stop : Nat) : Option Text :=
  if start ≤ stop then do
    let rest ← text.fromByte? start
    let past ← text.fromByte? stop
    return before rest past
  else none

/-- The byte offset of the first character that is found. -/
def findByte? (found : Char → Bool) : Text → Option Nat
  | [] => none
  | c :: rest => if found c then some 0 else (findByte? found rest).map (c.utf8Size + ·)

/-- How many bytes there are through the first `stop`, a character of one byte, or to the end. -/
def lengthThrough (stop : Char) (text : Text) : Nat :=
  (text.findByte? (· == stop)).elim text.byteLength (· + 1)

@[simp] theorem fromByte?_zero (text : Text) : text.fromByte? 0 = some text := by
  cases text <;> rfl

theorem fromByte?_cons_add (c : Char) (rest : Text) (offset : Nat) :
    fromByte? (c :: rest) (c.utf8Size + offset) = rest.fromByte? offset := by
  have some_byte := c.utf8Size_pos
  obtain ⟨size, counted⟩ := Nat.exists_eq_succ_of_ne_zero (Nat.ne_of_gt some_byte)
  have sum : c.utf8Size + offset = size + offset + 1 := by omega
  rw [sum, fromByte?, if_pos (by omega)]
  congr 1
  omega

theorem fromByte?_append (taken rest : Text) : (taken ++ rest).fromByte? taken.byteLength = some rest := by
  induction taken with
  | nil => exact fromByte?_zero rest
  | cons c taken ih =>
    rw [List.cons_append, byteLength_cons, fromByte?_cons_add]
    exact ih

/-- What stands at an offset is what a part of the text of this many bytes goes before. -/
theorem fromByte?_eq_some_iff {text rest : Text} {offset : Nat} :
    text.fromByte? offset = some rest ↔ ∃ taken, taken ++ rest = text ∧ taken.byteLength = offset := by
  constructor
  · intro stands
    induction text generalizing offset with
    | nil =>
      cases offset with
      | zero => exact ⟨[], Option.some.inj (stands.symm.trans (fromByte?_zero [])), rfl⟩
      | succ offset => exact absurd stands (by simp [fromByte?])
    | cons c tail ih =>
      cases offset with
      | zero => exact ⟨[], Option.some.inj (stands.symm.trans (fromByte?_zero _)), rfl⟩
      | succ offset =>
        rw [fromByte?] at stands
        split at stands
        · rename_i reached
          obtain ⟨taken, whole, counted⟩ := ih stands
          refine ⟨c :: taken, congrArg (c :: ·) whole, ?_⟩
          rw [byteLength_cons, counted]
          omega
        · exact absurd stands (by simp)
  · rintro ⟨taken, rfl, rfl⟩
    exact fromByte?_append taken rest

section Stands

variable {text piece rest : Text} {offset : Nat}

/-- What stands behind a piece that stands at an offset. -/
theorem fromByte?_add (stands : text.fromByte? offset = some (piece ++ rest)) :
    text.fromByte? (offset + piece.byteLength) = some rest := by
  obtain ⟨taken, whole, counted⟩ := fromByte?_eq_some_iff.mp stands
  apply fromByte?_eq_some_iff.mpr
  refine ⟨taken ++ piece, ?_, ?_⟩
  · rw [List.append_assoc, whole]
  · rw [byteLength_append, counted]

theorem fromByte?_next {c : Char} (stands : text.fromByte? offset = some (c :: rest)) :
    text.fromByte? (offset + c.utf8Size) = some rest := by
  have single : [c] ++ rest = c :: rest := rfl
  rw [← single] at stands
  have behind := fromByte?_add stands
  rwa [byteLength_cons, byteLength_nil, Nat.add_zero] at behind

/-- An offset and what stands at it make up the text. -/
theorem add_byteLength_of_fromByte? (stands : text.fromByte? offset = some rest) :
    offset + rest.byteLength = text.byteLength := by
  obtain ⟨taken, rfl, rfl⟩ := fromByte?_eq_some_iff.mp stands
  rw [byteLength_append]

theorem slice?_append (stands : text.fromByte? offset = some (piece ++ rest)) :
    text.slice? offset (offset + piece.byteLength) = some piece := by
  have past := fromByte?_add stands
  have shorter : (piece ++ rest).length - rest.length = piece.length := by
    rw [List.length_append, Nat.add_sub_cancel]
  rw [slice?, if_pos (Nat.le_add_right _ _), stands, past]
  change some ((piece ++ rest).take _) = some piece
  rw [shorter, List.take_left]

end Stands

theorem slice?_front (piece rest : Text) : (piece ++ rest).slice? 0 piece.byteLength = some piece := by
  have sliced := slice?_append (fromByte?_zero (piece ++ rest))
  rwa [Nat.zero_add] at sliced

/-! ## Looking for a character -/

/-- The offset of a character is the length of the text before the first one like it. -/
theorem findByte?_eq (found : Char → Bool) (text : Text) : text.findByte? found =
    if text.dropWhile (! found ·) = [] then none else some (byteLength (text.takeWhile (! found ·))) := by
  induction text with
  | nil => rfl
  | cons c rest ih =>
    rw [findByte?, ih]
    cases here : found c with
    | true => simp [here]
    | false =>
      simp only [here, Bool.false_eq_true, ↓reduceIte, Bool.not_false, List.dropWhile_cons_of_pos,
        List.takeWhile_cons_of_pos, byteLength_cons]
      split <;> rfl

/-- The length of a run of characters is where the first other one stands, or the length of the text. -/
theorem getD_findByte? (keep : Char → Bool) (text : Text) :
    (text.findByte? (! keep ·)).getD text.byteLength = byteLength (text.takeWhile keep) := by
  have whole := congrArg byteLength (List.takeWhile_append_dropWhile (p := keep) (l := text))
  rw [findByte?_eq]
  simp only [Bool.not_not]
  split
  · rename_i all
    rw [byteLength_append, all, byteLength_nil, Nat.add_zero] at whole
    exact whole.symm
  · rfl

end Text

end GroupUnroll
