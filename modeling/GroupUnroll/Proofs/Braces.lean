import GroupUnroll.Proofs.Answer
import GroupUnroll.Proofs.Quantifier
import Mathlib.Data.List.Induction
import Mathlib.Data.List.TakeWhile

/-! # What text in braces states

`BraceText.States` says what comes of a quantifier in braces from the text between the braces alone: which
character is out of place, which digits stand before the comma and behind it, and which number they denote.
Reading the braces once, from left to right, answers this for every text. Blanks take part in no rule but the
first, which they never break, so more or fewer of them do not change the bounds that are stated.
-/

namespace GroupUnroll

namespace BraceText

/-- The text in braces: everything before the first closing brace, or to the end. -/
def inside (inner : Text) : Text := inner.takeWhile (· != '\x7d')

/-- Whether a character may stand behind `front` in braces: blanks and digits may, and the first comma. -/
def Admits (front : Text) (c : Char) : Prop :=
  isBlank c = true ∨ c.isDigit = true ∨ (c = ',' ∧ ',' ∉ front)

/-- Whether every character of a text may stand where it stands. -/
def Admitted (text : Text) : Prop := ∀ front c back, text = front ++ c :: back → Admits front c

/-- The digits before the comma. -/
def lowerDigits (text : Text) : Text := (text.takeWhile (· != ',')).filter Char.isDigit

/-- The digits behind the comma. -/
def upperDigits (text : Text) : Text := (text.dropWhile (· != ',')).filter Char.isDigit

/-- The number that digits denote. -/
def number (digits : Text) : Nat := Nat.ofDigitChars 10 digits 0

/-- Whether a number of `text` starts with `c`, which stands behind `front`; `digits` picks its digits. -/
def Starts (digits : Text → Text) (text front : Text) (c : Char) : Prop :=
  ∃ back, text = front ++ c :: back ∧ digits front = [] ∧ digits (front ++ [c]) = [c]

/-- The bounds that a text in braces states if its numbers fit a word. Without a comma there is one number
for both bounds; behind a comma no digits are no upper bound. -/
def stated (text : Text) : Option Repetition :=
  let lower := UInt64.ofNat (number (lowerDigits text))
  if ',' ∈ text then
    some ⟨lower,
      if upperDigits text = [] then .unbounded else .atMost (UInt64.ofNat (number (upperDigits text)))⟩
  else if lowerDigits text = [] then none
  else some ⟨lower, .atMost lower⟩

/-- What comes of a quantifier that opens with a brace at `position`, before `inner`. -/
inductive States (position : Nat) (inner : Text) : Except Refusal (Option Repetition) → Prop
  /-- The first character out of place is refused, whether or not the braces are closed. -/
  | misplaced {front back : Text} {c : Char} (text : inside inner = front ++ c :: back)
      (before : Admitted front) (stray : ¬ Admits front c) :
      States position inner (.error (.badQuantifier (position + 1 + Text.byteLength front) c))
  | unclosed (admitted : Admitted (inside inner)) (unending : '\x7d' ∉ inner) :
      States position inner (.error (.unclosedQuantifier position))
  | lowerTooLarge {front : Text} {c : Char} (admitted : Admitted (inside inner)) (closed : '\x7d' ∈ inner)
      (large : UInt64.size ≤ number (lowerDigits (inside inner)))
      (starts : Starts lowerDigits (inside inner) front c) :
      States position inner (.error (.badQuantifier (position + 1 + Text.byteLength front) c))
  | upperTooLarge {front : Text} {c : Char} (admitted : Admitted (inside inner)) (closed : '\x7d' ∈ inner)
      (fits : number (lowerDigits (inside inner)) < UInt64.size)
      (large : UInt64.size ≤ number (upperDigits (inside inner)))
      (starts : Starts upperDigits (inside inner) front c) :
      States position inner (.error (.badQuantifier (position + 1 + Text.byteLength front) c))
  | bounds (admitted : Admitted (inside inner)) (closed : '\x7d' ∈ inner)
      (lower : number (lowerDigits (inside inner)) < UInt64.size)
      (upper : number (upperDigits (inside inner)) < UInt64.size) :
      States position inner (.ok (stated (inside inner)))

/-! ## A text and one character more -/

section Characters

variable {text front back inner other : Text} {c : Char} {digits : Text → Text}

theorem bne_of_absent {stop : Char} (absent : stop ∉ text) : ∀ c ∈ text, (c != stop) = true := by
  intro c member
  rw [bne_iff_ne]
  rintro rfl
  exact absent member

theorem not_mem_inside : '\x7d' ∉ inside inner :=
  fun member => absurd (List.mem_takeWhile_imp member) (by decide)

theorem inside_of_unending (unending : '\x7d' ∉ inner) : inside inner = inner :=
  List.takeWhile_eq_self_iff.mpr (bne_of_absent unending)

theorem inside_append_of_closed (closed : '\x7d' ∈ inner) : ∃ tail, inner = inside inner ++ '\x7d' :: tail := by
  induction inner with
  | nil => exact absurd closed (by simp)
  | cons c rest ih =>
    by_cases brace : c = '\x7d'
    · exact ⟨rest, by simp [inside, brace]⟩
    · obtain ⟨tail, whole⟩ := ih ((List.mem_cons.mp closed).resolve_left (Ne.symm brace))
      refine ⟨tail, ?_⟩
      rw [inside, List.takeWhile_cons_of_pos (by simpa using brace), List.cons_append]
      exact congrArg _ whole

theorem admitted_nil : Admitted [] := by
  intro front c back whole
  simp at whole

theorem admitted_concat : Admitted (text ++ [c]) ↔ Admitted text ∧ Admits text c := by
  constructor
  · intro admitted
    refine ⟨fun front d back whole => admitted front d (back ++ [c]) ?_, admitted text c [] rfl⟩
    rw [whole, List.append_assoc, List.cons_append]
  · rintro ⟨admitted, last⟩ front d back whole
    rcases List.eq_nil_or_concat back with rfl | ⟨back, e, rfl⟩
    · obtain ⟨rfl, same⟩ := List.append_inj' whole rfl
      obtain rfl := List.singleton_inj.mp same
      exact last
    · rw [List.concat_eq_append, ← List.cons_append, ← List.append_assoc] at whole
      exact admitted front d back (List.append_inj' whole rfl).1

/-- A text with a character out of place has a first one. -/
theorem exists_misplaced (refused : ¬ Admitted text) :
    ∃ front c back, text = front ++ c :: back ∧ Admitted front ∧ ¬ Admits front c := by
  induction text using List.reverseRecOn with
  | nil => exact absurd admitted_nil refused
  | append_singleton text c ih =>
    by_cases admitted : Admitted text
    · exact ⟨text, c, [], rfl, admitted, fun last => refused (admitted_concat.mpr ⟨admitted, last⟩)⟩
    · obtain ⟨front, d, back, rfl, before, stray⟩ := ih admitted
      exact ⟨front, d, back ++ [c], by simp, before, stray⟩

/-- Without a comma all digits are digits before it. -/
theorem digits_of_absent (absent : ',' ∉ text) :
    lowerDigits text = text.filter Char.isDigit ∧ upperDigits text = [] := by
  have all := bne_of_absent absent
  rw [lowerDigits, upperDigits, List.takeWhile_eq_self_iff.mpr all, List.dropWhile_eq_nil_iff.mpr all]
  exact ⟨rfl, rfl⟩

theorem digits_of_comma (absent : ',' ∉ front) (back : Text) :
    lowerDigits (front ++ ',' :: back) = front.filter Char.isDigit ∧
      upperDigits (front ++ ',' :: back) = back.filter Char.isDigit := by
  have all := bne_of_absent absent
  rw [lowerDigits, upperDigits, List.takeWhile_append_of_pos all, List.dropWhile_append_of_pos all]
  simp

theorem lowerDigits_concat (text : Text) (c : Char) : lowerDigits (text ++ [c]) =
    if ',' ∈ text then lowerDigits text else lowerDigits text ++ [c].filter Char.isDigit := by
  split_ifs with comma
  · obtain ⟨front, back, rfl, absent⟩ := List.eq_append_cons_of_mem comma
    rw [List.append_assoc, List.cons_append, (digits_of_comma absent _).1, (digits_of_comma absent _).1]
  · rw [(digits_of_absent comma).1, ← List.filter_append]
    by_cases last : c = ','
    · subst last
      rw [(digits_of_comma comma []).1, List.filter_append]
      simp
    · exact (digits_of_absent (by simp [comma, Ne.symm last])).1

theorem upperDigits_concat (text : Text) (c : Char) : upperDigits (text ++ [c]) =
    if ',' ∈ text then upperDigits text ++ [c].filter Char.isDigit else upperDigits text := by
  split_ifs with comma
  · obtain ⟨front, back, rfl, absent⟩ := List.eq_append_cons_of_mem comma
    rw [List.append_assoc, List.cons_append, (digits_of_comma absent _).2, (digits_of_comma absent _).2,
      List.filter_append]
  · rw [(digits_of_absent comma).2]
    by_cases last : c = ','
    · subst last
      rw [(digits_of_comma comma []).2]
      rfl
    · exact (digits_of_absent (by simp [comma, Ne.symm last])).2

/-- A number with digits starts somewhere. -/
theorem exists_starts (grows : ∀ text c, digits (text ++ [c]) = digits text ∨ digits (text ++ [c]) = digits text ++ [c])
    (empty : digits [] = []) (nonempty : digits text ≠ []) : ∃ front c, Starts digits text front c := by
  induction text using List.reverseRecOn with
  | nil => exact absurd empty nonempty
  | append_singleton text c ih =>
    by_cases before : digits text = []
    · refine ⟨text, c, [], rfl, before, ?_⟩
      rcases grows text c with same | more
      · exact absurd (same.trans before) nonempty
      · rw [more, before, List.nil_append]
    · obtain ⟨front, d, back, rfl, none, first⟩ := ih before
      exact ⟨front, d, back ++ [c], by simp, none, first⟩

theorem lowerDigits_grows (text : Text) (c : Char) :
    lowerDigits (text ++ [c]) = lowerDigits text ∨ lowerDigits (text ++ [c]) = lowerDigits text ++ [c] := by
  rw [lowerDigits_concat]
  cases digit : c.isDigit <;> split_ifs <;> simp [digit]

theorem upperDigits_grows (text : Text) (c : Char) :
    upperDigits (text ++ [c]) = upperDigits text ∨ upperDigits (text ++ [c]) = upperDigits text ++ [c] := by
  rw [upperDigits_concat]
  cases digit : c.isDigit <;> split_ifs <;> simp [digit]

end Characters

/-! ## Reading -/

/-- Take a character that may stand in braces. -/
def take (done : BraceText) (position : Nat) (c : Char) : BraceText :=
  if c.isDigit then done.push position c else if c = ',' then { done with comma := true } else done

/-- Take the characters of a text that stands at `position`. -/
def takeAll (done : BraceText) (position : Nat) : Text → BraceText
  | [] => done
  | c :: rest => (done.take position c).takeAll (position + c.utf8Size) rest

theorem takeAll_append (done : BraceText) (position : Nat) (first second : Text) :
    done.takeAll position (first ++ second) =
      (done.takeAll position first).takeAll (position + first.byteLength) second := by
  induction first generalizing done position with
  | nil => rfl
  | cons c rest ih => rw [List.cons_append, takeAll, takeAll, ih, Text.byteLength_cons, Nat.add_assoc]

theorem takeAll_concat (done : BraceText) (position : Nat) (text : Text) (c : Char) :
    done.takeAll position (text ++ [c]) = (done.takeAll position text).take (position + text.byteLength) c := by
  rw [takeAll_append, takeAll, takeAll]

end BraceText

/-- A number that was read from digits. -/
structure Numeral.Denotes (numeral : Numeral) (digits : Text) : Prop where
  value : numeral.value = BraceText.number digits
  begun : numeral.first = none ↔ digits = []

namespace Numeral

variable {numeral : Numeral}

theorem Denotes.push {digits : Text} (denotes : numeral.Denotes digits) (position : Nat) (c : Char) :
    (numeral.push position c).Denotes (digits ++ [c]) := by
  refine ⟨?_, by simp [Numeral.push]⟩
  rw [BraceText.number, Nat.ofDigitChars_append, Numeral.push, denotes.value]
  rfl

/-- A number starts at the digit that it was begun with. -/
theorem first_push {start : Nat × Char} (begun : numeral.first = some start) (position : Nat) (c : Char) :
    (numeral.push position c).first = some start := by
  rw [push, begun]
  rfl

theorem first_push_of_none (unbegun : numeral.first = none) (position : Nat) (c : Char) :
    (numeral.push position c).first = some (position, c) := by
  rw [push, unbegun]
  rfl

end Numeral

namespace BraceText

/-- Braces of which `text` has been read. -/
structure Holds (done : BraceText) (text : Text) : Prop where
  comma : done.comma = true ↔ ',' ∈ text
  lower : done.lower.Denotes (lowerDigits text)
  upper : done.upper.Denotes (upperDigits text)

theorem Holds.take {done : BraceText} {text : Text} (holds : done.Holds text) (position : Nat) (c : Char) :
    (done.take position c).Holds (text ++ [c]) := by
  have comma := holds.comma
  have lower := lowerDigits_concat text c
  have upper := upperDigits_concat text c
  unfold BraceText.take
  split_ifs with digit last
  · have other : ',' ≠ c := by rintro rfl; exact absurd digit (by decide)
    rw [List.filter_cons_of_pos digit] at lower upper
    unfold push
    split_ifs with seen
    · rw [if_pos (comma.mp seen)] at lower upper
      exact ⟨by simp [comma, other], lower ▸ holds.lower, upper ▸ holds.upper.push position c⟩
    · rw [if_neg (mt comma.mpr seen)] at lower upper
      exact ⟨by simp [comma, other], lower ▸ holds.lower.push position c, upper ▸ holds.upper⟩
  all_goals rw [List.filter_cons_of_neg digit, List.filter_nil, List.append_nil, ite_self] at lower upper
  · exact ⟨by simp [last], lower ▸ holds.lower, upper ▸ holds.upper⟩
  · exact ⟨by simp [comma, Ne.symm last], lower ▸ holds.lower, upper ▸ holds.upper⟩

theorem holds_takeAll (position : Nat) (text : Text) : (empty.takeAll position text).Holds text := by
  induction text using List.reverseRecOn with
  | nil =>
    have none_read : Numeral.empty.Denotes [] := ⟨rfl, by decide⟩
    exact ⟨by simp [takeAll, empty], none_read, none_read⟩
  | append_singleton text c ih =>
    rw [takeAll_concat]
    exact ih.take _ c

/-- A number of the braces starts where its first digit is taken. -/
theorem first_takeAll {side : BraceText → Numeral} {text front : Text} {c : Char} {digits : Text → Text}
    (moves : ∀ done position c,
      side (take done position c) = side done ∨ side (take done position c) = (side done).push position c)
    (holds : ∀ position text, (side (empty.takeAll position text)).Denotes (digits text))
    (starts : Starts digits text front c) (position : Nat) :
    (side (empty.takeAll position text)).first = some (position + front.byteLength, c) := by
  obtain ⟨back, rfl, unbegun, first⟩ := starts
  have keeps (done : BraceText) (position : Nat) {start : Nat × Char} (begun : (side done).first = some start) :
      (side (done.takeAll position back)).first = some start := by
    induction back generalizing done position with
    | nil => exact begun
    | cons d rest ih =>
      refine ih _ _ ?_
      rcases moves done position d with same | pushed
      · rw [same, begun]
      · rw [pushed, Numeral.first_push begun]
  rw [takeAll_append, takeAll]
  apply keeps
  have before := (holds position front).begun.mpr unbegun
  have after : (side (empty.takeAll position (front ++ [c]))).first ≠ none := by
    rw [ne_eq, (holds _ _).begun, first]
    simp
  rw [takeAll_concat] at after
  rcases moves (empty.takeAll position front) (position + front.byteLength) c with same | pushed
  · rw [same] at after
    exact absurd before after
  · rw [pushed, Numeral.first_push_of_none before]

theorem take_lower (done : BraceText) (position : Nat) (c : Char) :
    (done.take position c).lower = done.lower ∨ (done.take position c).lower = done.lower.push position c := by
  unfold take push
  split_ifs <;> simp

theorem take_upper (done : BraceText) (position : Nat) (c : Char) :
    (done.take position c).upper = done.upper ∨ (done.take position c).upper = done.upper.push position c := by
  unfold take push
  split_ifs <;> simp

theorem ne_comma_of_isBlank {c : Char} (blank : isBlank c = true) : c ≠ ',' := by
  rintro rfl
  exact absurd blank (by decide)

section Steps

variable {done : BraceText} {text tail : Text} {c : Char} {opened position : Nat}

/-- A character that may stand behind what has been read is taken. -/
theorem read_of_admits (holds : done.Holds text) (admits : Admits text c) (brace : c ≠ '\x7d') :
    read opened position done (c :: tail) =
      read opened (position + c.utf8Size) (done.take position c) tail := by
  rw [read, if_neg brace, take]
  rcases admits with blank | digit | ⟨rfl, first⟩
  · have other : c.isDigit ≠ true := fun digit => by simp [not_isBlank_of_isDigit digit] at blank
    rw [if_pos blank, if_neg other, if_neg (ne_comma_of_isBlank blank)]
  · rw [if_neg (by simp [not_isBlank_of_isDigit digit]), if_pos digit, if_pos digit]
  · have unseen : done.comma = false := Bool.eq_false_iff.mpr (mt holds.comma.mp first)
    rw [if_neg (by decide), if_neg (by decide), if_pos ⟨rfl, unseen⟩, if_neg (by decide), if_pos rfl]

/-- Any other character is refused where it stands. -/
theorem read_of_not_admits (holds : done.Holds text) (stray : ¬ Admits text c) (brace : c ≠ '\x7d') :
    read opened position done (c :: tail) = .error (.badQuantifier position c) := by
  have separator : ¬ (c = ',' ∧ done.comma = false) := by
    rintro ⟨comma, unseen⟩
    refine stray (.inr (.inr ⟨comma, fun seen => ?_⟩))
    rw [holds.comma.mpr seen] at unseen
    cases unseen
  rw [read, if_neg brace, if_neg fun blank => stray (.inl blank), if_neg fun digit => stray (.inr (.inl digit)),
    if_neg separator]

/-- A text whose characters may stand where they stand is read to its end. -/
theorem read_takeAll (admitted : Admitted text) (unending : '\x7d' ∉ text) :
    read opened position empty (text ++ tail) =
      read opened (position + text.byteLength) (empty.takeAll position text) tail := by
  induction text using List.reverseRecOn generalizing tail with
  | nil => rfl
  | append_singleton text c ih =>
    obtain ⟨before, last⟩ := admitted_concat.mp admitted
    rw [List.mem_append, not_or, List.mem_singleton] at unending
    rw [List.append_assoc, List.singleton_append, ih before unending.1,
      read_of_admits (holds_takeAll position text) last (Ne.symm unending.2), takeAll_concat]
    simp [Nat.add_assoc]

/-- Closed braces are read through the closing brace. -/
theorem read_inside {inner : Text} (admitted : Admitted (inside inner)) (closed : '\x7d' ∈ inner) :
    read opened position empty inner = .ok (empty.takeAll position (inside inner)) := by
  obtain ⟨tail, whole⟩ := inside_append_of_closed closed
  conv_lhs => rw [whole, read_takeAll admitted not_mem_inside, read, if_pos rfl]

end Steps

end BraceText

/-! ## Bounds -/

namespace Numeral

variable {numeral : Numeral} {digits : Text}

theorem Denotes.bound_eq_ok (denotes : numeral.Denotes digits) (fits : BraceText.number digits < UInt64.size) :
    numeral.bound = .ok (if digits = [] then none else some (UInt64.ofNat (BraceText.number digits))) := by
  unfold bound
  rw [denotes.value]
  split
  · rename_i unbegun
    rw [if_pos (denotes.begun.mp unbegun)]
  · rename_i position digit begun
    have nonempty : digits ≠ [] := mt denotes.begun.mpr (by simp [begun])
    rw [if_pos fits, if_neg nonempty]

theorem Denotes.bound_eq_error (denotes : numeral.Denotes digits) {position : Nat} {digit : Char}
    (large : UInt64.size ≤ BraceText.number digits) (first : numeral.first = some (position, digit)) :
    numeral.bound = .error (.badQuantifier position digit) := by
  unfold bound
  rw [first, denotes.value]
  exact if_neg (Nat.not_lt.mpr large)

end Numeral

namespace BraceText

/-- Bounds that fit words are stated. -/
theorem Holds.bounds_eq_ok {done : BraceText} {text : Text} (holds : done.Holds text)
    (lower : number (lowerDigits text) < UInt64.size) (upper : number (upperDigits text) < UInt64.size) :
    done.bounds = .ok (stated text) := by
  unfold bounds stated
  rw [holds.lower.bound_eq_ok lower, holds.upper.bound_eq_ok upper]
  by_cases comma : ',' ∈ text
  · rw [if_pos comma, holds.comma.mpr comma]
    by_cases without : lowerDigits text = []
    · -- the lower bound is then zero, which is the number that no digits denote
      rw [if_pos without, without]
      split_ifs <;> rfl
    · rw [if_neg without]
      split_ifs <;> rfl
  · rw [if_neg comma, Bool.eq_false_iff.mpr (mt holds.comma.mp comma)]
    split_ifs <;> rfl

/-- What is stated is what reading answers. -/
theorem ofQuantifier_of_states {position : Nat} {inner : Text} {answer : Except Refusal (Option Repetition)}
    (states : States position inner answer) : Repetition.ofQuantifier ('\x7b' :: inner) position = answer := by
  change BraceText.read position (position + 1) .empty inner >>= BraceText.bounds = answer
  have holds := holds_takeAll (position + 1) (inside inner)
  cases states with
  | @misplaced front back c text before stray =>
    have brace : '\x7d' ∉ front ++ c :: back := text ▸ not_mem_inside
    rw [List.mem_append, not_or, List.mem_cons, not_or] at brace
    have whole : inner = front ++ (c :: (back ++ inner.dropWhile (· != '\x7d'))) := by
      rw [← List.cons_append, ← List.append_assoc, ← text]
      exact List.takeWhile_append_dropWhile.symm
    rw [whole, read_takeAll before brace.1, read_of_not_admits (holds_takeAll _ front) stray (Ne.symm brace.2.1)]
    rfl
  | unclosed admitted unending =>
    rw [inside_of_unending unending] at admitted
    rw [← List.append_nil inner, read_takeAll admitted unending]
    rfl
  | lowerTooLarge admitted closed large starts =>
    have first := first_takeAll take_lower (fun position text => (holds_takeAll position text).lower) starts
      (position + 1)
    rw [read_inside admitted closed]
    refine bind_eq_error.mpr (.inr ⟨_, rfl, ?_⟩)
    exact bind_eq_error.mpr (.inl (holds.lower.bound_eq_error large first))
  | upperTooLarge admitted closed fits large starts =>
    have first := first_takeAll take_upper (fun position text => (holds_takeAll position text).upper) starts
      (position + 1)
    rw [read_inside admitted closed]
    refine bind_eq_error.mpr (.inr ⟨_, rfl, bind_eq_error.mpr (.inr ⟨_, holds.lower.bound_eq_ok fits, ?_⟩)⟩)
    exact bind_eq_error.mpr (.inl (holds.upper.bound_eq_error large first))
  | bounds admitted closed lower upper =>
    rw [read_inside admitted closed]
    exact holds.bounds_eq_ok lower upper

theorem nonempty_of_large {digits : Text} (large : UInt64.size ≤ number digits) : digits ≠ [] := by
  rintro rfl
  exact absurd large (by decide)

/-- Something is stated by every text. -/
theorem exists_states (position : Nat) (inner : Text) : ∃ answer, States position inner answer := by
  by_cases admitted : Admitted (inside inner)
  · by_cases closed : '\x7d' ∈ inner
    · rcases Nat.lt_or_ge (number (lowerDigits (inside inner))) UInt64.size with lower | large
      · rcases Nat.lt_or_ge (number (upperDigits (inside inner))) UInt64.size with upper | large
        · exact ⟨_, .bounds admitted closed lower upper⟩
        · obtain ⟨front, c, starts⟩ := exists_starts upperDigits_grows rfl (nonempty_of_large large)
          exact ⟨_, .upperTooLarge admitted closed lower large starts⟩
      · obtain ⟨front, c, starts⟩ := exists_starts lowerDigits_grows rfl (nonempty_of_large large)
        exact ⟨_, .lowerTooLarge admitted closed large starts⟩
    · exact ⟨_, .unclosed admitted closed⟩
  · obtain ⟨front, c, back, text, before, stray⟩ := exists_misplaced admitted
    exact ⟨_, .misplaced text before stray⟩

/-! ## Blanks -/

/-- A text without its blanks. -/
def unspaced (text : Text) : Text := text.filter fun c => !isBlank c

theorem comma_mem_unspaced {text : Text} : ',' ∈ unspaced text ↔ ',' ∈ text := by
  have comma : isBlank ',' = false := by decide
  simp [unspaced, comma]

theorem admits_unspaced {text : Text} {c : Char} : Admits (unspaced text) c ↔ Admits text c := by
  rw [Admits, Admits, comma_mem_unspaced]

theorem admitted_unspaced {text : Text} : Admitted (unspaced text) ↔ Admitted text := by
  induction text using List.reverseRecOn with
  | nil => exact Iff.rfl
  | append_singleton text c ih =>
    rw [admitted_concat, ← ih, ← admits_unspaced, unspaced, List.filter_append, ← unspaced]
    cases blank : isBlank c with
    | false => rw [List.filter_cons_of_pos (by simp [blank]), List.filter_nil, admitted_concat]
    | true =>
      have admits : Admits (unspaced text) c := .inl blank
      rw [List.filter_cons_of_neg (by simp [blank]), List.filter_nil, List.append_nil, and_iff_left admits]

theorem filter_isDigit_unspaced (text : Text) :
    (unspaced text).filter Char.isDigit = text.filter Char.isDigit := by
  rw [unspaced, List.filter_filter]
  refine List.filter_congr fun c _ => ?_
  cases digit : c.isDigit with
  | false => rfl
  | true => rw [not_isBlank_of_isDigit digit]; rfl

theorem digits_unspaced (text : Text) :
    lowerDigits (unspaced text) = lowerDigits text ∧ upperDigits (unspaced text) = upperDigits text := by
  by_cases comma : ',' ∈ text
  · obtain ⟨front, back, rfl, absent⟩ := List.eq_append_cons_of_mem comma
    have split : unspaced (front ++ ',' :: back) = unspaced front ++ ',' :: unspaced back := by
      rw [unspaced, List.filter_append, List.filter_cons_of_pos (by decide), ← unspaced, ← unspaced]
    have lower := digits_of_comma absent back
    have upper := digits_of_comma (mt comma_mem_unspaced.mp absent) (unspaced back)
    rw [split, upper.1, upper.2, lower.1, lower.2]
    exact ⟨filter_isDigit_unspaced front, filter_isDigit_unspaced back⟩
  · have whole := digits_of_absent comma
    have squeezed := digits_of_absent (mt comma_mem_unspaced.mp comma)
    rw [squeezed.1, squeezed.2, whole.1, whole.2]
    exact ⟨filter_isDigit_unspaced text, rfl⟩

theorem stated_unspaced (text : Text) : stated (unspaced text) = stated text := by
  simp only [stated, digits_unspaced text, comma_mem_unspaced]

/-- Braces whose texts differ in blanks state the same bounds. -/
theorem States.of_unspaced {position elsewhere : Nat} {inner other : Text} {bounds : Option Repetition}
    (states : States position inner (.ok bounds)) (closed : '\x7d' ∈ other)
    (same : unspaced (inside inner) = unspaced (inside other)) : States elsewhere other (.ok bounds) := by
  cases states with
  | bounds admitted _ lower upper =>
    rw [← admitted_unspaced, same, admitted_unspaced] at admitted
    rw [← (digits_unspaced _).1, same, (digits_unspaced _).1] at lower
    rw [← (digits_unspaced _).2, same, (digits_unspaced _).2] at upper
    rw [← stated_unspaced, same, stated_unspaced]
    exact .bounds admitted closed lower upper

end BraceText

/-- A quantifier in braces states what its characters say, or is refused for the first character out of place, the
missing brace, or the first digit of a number that fits no word, in this order. Blanks put in or taken out anywhere
in the braces leave the bounds as they are, wherever the quantifier stands. -/
theorem Repetition.ofQuantifier_braces (position : Nat) (inner : Text) :
    (∀ answer, Repetition.ofQuantifier ('\x7b' :: inner) position = answer ↔
      BraceText.States position inner answer) ∧
    ∀ elsewhere other bounds, Repetition.ofQuantifier ('\x7b' :: inner) position = .ok bounds →
      '\x7d' ∈ other →
      BraceText.unspaced (BraceText.inside inner) = BraceText.unspaced (BraceText.inside other) →
      Repetition.ofQuantifier ('\x7b' :: other) elsewhere = .ok bounds := by
  have exact (position : Nat) (inner : Text) (answer : Except Refusal (Option Repetition)) :
      Repetition.ofQuantifier ('\x7b' :: inner) position = answer ↔ BraceText.States position inner answer := by
    refine ⟨?_, BraceText.ofQuantifier_of_states⟩
    rintro rfl
    obtain ⟨answer, states⟩ := BraceText.exists_states position inner
    rwa [BraceText.ofQuantifier_of_states states]
  refine ⟨exact position inner, fun elsewhere other bounds read closed same => ?_⟩
  rw [exact] at read ⊢
  exact read.of_unspaced closed same

/-- Blanks of one and of three bytes, leading zeros, and a number one too large, with a second comma behind it or
not. -/
theorem Repetition.ofQuantifier_braces_spaced :
    Repetition.ofQuantifier ('\x7b' :: "1 0,007\x7d)".toList) 3 = .ok (some ⟨10, .atMost 7⟩) ∧
    Repetition.ofQuantifier ('\x7b' :: "\u3000 10 , 0 07\x7d".toList) 8 = .ok (some ⟨10, .atMost 7⟩) ∧
    BraceText.States 8 "\u3000,18446744073709551616\x7d".toList (.error (.badQuantifier 13 '1')) ∧
    BraceText.States 8 "\u3000,18446744073709551616,".toList (.error (.badQuantifier 33 ',')) := by
  have read : Repetition.ofQuantifier ('\x7b' :: "1 0,007\x7d)".toList) 3 = .ok (some ⟨10, .atMost 7⟩) := by
    decide +kernel
  have closed : '\x7d' ∈ "\u3000 10 , 0 07\x7d".toList := by decide
  have same : BraceText.unspaced (BraceText.inside "1 0,007\x7d)".toList) =
      BraceText.unspaced (BraceText.inside "\u3000 10 , 0 07\x7d".toList) := by decide +kernel
  refine ⟨read, (ofQuantifier_braces 3 "1 0,007\x7d)".toList).2 8 _ _ read closed same, ?_, ?_⟩
  · exact ((ofQuantifier_braces 8 _).1 _).mp (by decide +kernel)
  · exact ((ofQuantifier_braces 8 _).1 _).mp (by decide +kernel)

end GroupUnroll
