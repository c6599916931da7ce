import GroupUnroll.Text.Basic

/-! # Character classes in plain text

A class runs from its bracket to the bracket that closes it. Classes nest, an escaped character
never closes one, and a closing bracket at the very head of a class, directly or after the negation
sign, is an ordinary member. A class that is never closed runs to the end of the text.
-/

namespace GroupUnroll

/-- Where in a class the next character stands. -/
inductive ClassPlace
  /-- Directly after the opening bracket, where a caret negates. -/
  | opened
  /-- Directly after the negating caret. -/
  | negated
  /-- After a backslash. -/
  | escaped
  /-- After at least one member. -/
  | inside
deriving DecidableEq

/-- What is left after the class being read, which lies in `outer` other open classes, and after
those classes. -/
def dropClassFrom : (outer : Nat) → (place : ClassPlace) → Text → Text
  | _, _, [] => []
  | outer, place, c :: rest =>
    if place = .escaped then dropClassFrom outer .inside rest
    else if c = '\\' then dropClassFrom outer .escaped rest
    else if c = '[' then dropClassFrom (outer + 1) .opened rest
    else if c = ']' ∧ place = .inside then
      match outer with
      | 0 => rest
      | outer + 1 => dropClassFrom outer .inside rest
    else if c = '^' ∧ place = .opened then dropClassFrom outer .negated rest
    else dropClassFrom outer .inside rest

/-- What is left after the class whose opening bracket stands directly before the text. -/
def dropClass (text : Text) : Text := dropClassFrom 0 .opened text

theorem dropClassFrom_suffix (outer : Nat) (place : ClassPlace) (text : Text) :
    dropClassFrom outer place text <:+ text := by
  induction text generalizing outer place with
  | nil => exact List.suffix_refl []
  | cons c rest ih =>
    have step (outer : Nat) (place : ClassPlace) : dropClassFrom outer place rest <:+ c :: rest :=
      (ih outer place).trans (List.suffix_cons c rest)
    unfold dropClassFrom
    repeat' split
    all_goals first | exact step _ _ | exact List.suffix_cons c rest

theorem dropClass_suffix (text : Text) : dropClass text <:+ text := dropClassFrom_suffix 0 .opened text

/-- Whether a run of plain text ends before this character. -/
def endsPlainText (c : Char) : Bool := c == '(' || c == ')' || c == '\\' || c == '@'

/-- What is left after a run of plain text, classes being skipped as a whole. -/
def dropPlainText : Text → Text
  | [] => []
  | c :: rest =>
    if endsPlainText c then c :: rest
    else if c = '[' then dropPlainText (dropClass rest)
    else dropPlainText rest
termination_by text => text.length
decreasing_by
  · exact Nat.lt_succ_of_le (dropClass_suffix rest).length_le
  · exact Nat.lt_succ_self _

theorem dropPlainText_suffix (text : Text) : dropPlainText text <:+ text := by
  fun_induction dropPlainText text with
  | case1 => exact List.suffix_refl []
  | case2 c rest => exact List.suffix_refl _
  | case3 rest _ ih => exact ih.trans ((dropClass_suffix rest).trans (List.suffix_cons _ rest))
  | case4 c rest _ _ ih => exact ih.trans (List.suffix_cons c rest)

/-- A run that may start at a character takes at least that character. -/
theorem dropPlainText_length_lt {c : Char} {rest : Text} (plain : endsPlainText c = false) :
    (dropPlainText (c :: rest)).length < (c :: rest).length := by
  unfold dropPlainText
  simp only [plain, Bool.false_eq_true, ↓reduceIte]
  split
  · exact Nat.lt_succ_of_le
      (Nat.le_trans (dropPlainText_suffix _).length_le (dropClass_suffix rest).length_le)
  · exact Nat.lt_succ_of_le (dropPlainText_suffix rest).length_le

end GroupUnroll
