/-! # Text as lists of characters

Patterns are lists of characters; positions and sizes are counted in UTF-8 bytes. Every scanning
rule is a function that drops what it reads, and the text read is what stands before the rest.
`before_append` puts the two back together whenever the rest is a suffix of the whole.
-/

namespace GroupUnroll

/-- Pattern text, one entry per Unicode scalar value. -/
abbrev Text := List Char

namespace Text

/-- Size in UTF-8 bytes. -/
def byteLength (text : Text) : Nat := text.foldl (fun size c => size + c.utf8Size) 0

theorem foldl_utf8Size (text : Text) (size : Nat) :
    text.foldl (fun size c => size + c.utf8Size) size = size + byteLength text := by
  induction text generalizing size with
  | nil => rfl
  | cons c rest ih =>
    rw [byteLength, List.foldl_cons, List.foldl_cons, ih, ih, Nat.zero_add, Nat.add_assoc]

@[simp] theorem byteLength_nil : byteLength [] = 0 := rfl

@[simp] theorem byteLength_cons (c : Char) (text : Text) :
    byteLength (c :: text) = c.utf8Size + byteLength text := by
  rw [byteLength, List.foldl_cons, foldl_utf8Size, Nat.zero_add]

@[simp] theorem byteLength_append (first second : Text) :
    byteLength (first ++ second) = byteLength first + byteLength second := by
  rw [byteLength, List.foldl_append, foldl_utf8Size]
  rfl

/-- The part of `whole` that stands before its suffix `rest`. -/
def before (whole rest : Text) : Text := whole.take (whole.length - rest.length)

theorem before_append {whole rest : Text} (suffix : rest <:+ whole) :
    before whole rest ++ rest = whole :=
  List.suffix_iff_eq_append.mp suffix

/-- Drop everything through the first `stop`, or to the end if there is none. -/
def dropThrough (stop : Char) : Text → Text
  | [] => []
  | c :: rest => if c = stop then rest else dropThrough stop rest

theorem dropThrough_suffix (stop : Char) (text : Text) : dropThrough stop text <:+ text := by
  induction text with
  | nil => exact List.suffix_refl []
  | cons c rest ih =>
    unfold dropThrough
    split
    · exact List.suffix_cons c rest
    · exact ih.trans (List.suffix_cons c rest)

theorem dropThrough_length_lt (stop c : Char) (rest : Text) :
    (dropThrough stop (c :: rest)).length < (c :: rest).length := by
  have shorter := (dropThrough_suffix stop rest).length_le
  unfold dropThrough
  split <;> simp only [List.length_cons] <;> omega

end Text

end GroupUnroll
