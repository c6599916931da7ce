import GroupUnroll.Proofs.ByteCursor
import GroupUnroll.Proofs.Rereading

/-! # Tokens cover the input

Call after call, the byte cursor has an answer, and it is the answer of the cursor that the pattern is read
with. What was answered so far and what is left make up the input, so the offset is the length of what was
answered and stands between two characters. Each token before the end of the input has characters, so the
end comes after finitely many calls, and every call from then on answers it again.
-/

namespace GroupUnroll

/-- The answers of `count` calls, and the cursor after them. -/
def Cursor.calls : (count : Nat) → Cursor → List Token × Cursor
  | 0, cursor => ([], cursor)
  | count + 1, cursor => (cursor.next.1 :: (calls count cursor.next.2).1, (calls count cursor.next.2).2)

/-- A closing parenthesis is a token of its own, and no other token starts with one. -/
theorem scan_eq_closer_iff {afterClose : Bool} {text : Text} :
    (scan afterClose text).1 = .closer ↔ text.head? = some ')' := by
  constructor
  · intro closer
    rw [← scan_source afterClose text, closer]
    rfl
  · intro head
    obtain ⟨rest, rfl⟩ := List.head?_eq_some_iff.mp head
    simp [scan]

/-! ## The byte cursor follows the cursor -/

/-- A byte cursor that stands before what a cursor has left. -/
structure ByteCursor.Follows (bytes : ByteCursor) (input : Text) (cursor : Cursor) : Prop where
  input_eq : bytes.input = input
  stands : input.fromByte? bytes.position = some cursor.rest
  position_eq : bytes.position = cursor.offset
  afterClose_eq : bytes.afterClose = cursor.afterClose

namespace ByteCursor.Follows

variable {bytes : ByteCursor} {input : Text} {cursor : Cursor}

theorem start (input : Text) : (ByteCursor.start input).Follows input (Cursor.start input) :=
  ⟨rfl, Text.fromByte?_zero input, rfl, rfl⟩

/-- One call answers what the cursor answers, and follows it. -/
theorem next (follows : bytes.Follows input cursor) :
    ∃ later, bytes.next? = some (cursor.next.1, later) ∧ later.Follows input cursor.next.2 := by
  obtain ⟨whole, position, behind⟩ := bytes
  obtain ⟨rest, offset, afterClose⟩ := cursor
  obtain ⟨same, stands, counted, remembered⟩ := follows
  dsimp only at same stands counted remembered
  subst same counted remembered
  have peeked := peek?_of_fromByte? stands
  by_cases closing : rest.head? = some ')'
  · obtain ⟨tail, rfl⟩ := List.head?_eq_some_iff.mp closing
    refine ⟨⟨whole, position + (')' : Char).utf8Size, true⟩, ?_, rfl, ?_, ?_, ?_⟩
    · simp [next?, nextBy?, Cursor.next, scan, peeked, bump?_cons stands]
    · simpa [Cursor.next, scan] using Text.fromByte?_next stands
    · simp [Cursor.next, scan, Token.source]
    · simp [Cursor.next, scan]
  · have answered : Answers (tokenBy? isNameChar whole behind position) position (scan behind rest).1 :=
      tokenBy?_answers stands closing
    have taken := scan_source behind rest
    have other : (scan behind rest).1 ≠ .closer := fun closer => closing (scan_eq_closer_iff.mp closer)
    refine ⟨⟨whole, position + (scan behind rest).1.source.byteLength, false⟩, ?_, rfl, ?_, rfl, ?_⟩
    · rw [Answers] at answered
      simp [next?, nextBy?, Cursor.next, peeked, closing, answered]
    · rw [← taken] at stands
      exact Text.fromByte?_add stands
    · simp [Cursor.next, other]

theorem calls (count : Nat) : ∀ {bytes : ByteCursor} {cursor : Cursor}, bytes.Follows input cursor →
    ∃ later, bytes.calls? count = some ((cursor.calls count).1, later) ∧
      later.Follows input (cursor.calls count).2 := by
  induction count with
  | zero => exact fun follows => ⟨_, rfl, follows⟩
  | succ count ih =>
    intro bytes cursor follows
    obtain ⟨second, answered, follows⟩ := follows.next
    obtain ⟨last, more, follows⟩ := ih follows
    refine ⟨last, ?_, follows⟩
    rw [next?] at answered
    rw [calls?] at more ⊢
    simp [callsBy?, answered, more, Cursor.calls]

end ByteCursor.Follows

/-! ## What is answered -/

namespace Cursor

/-- What was answered and what is left are what was left before, and the offset counts what was answered. -/
theorem calls_source (count : Nat) : ∀ cursor : Cursor,
    (cursor.calls count).1.flatMap Token.source ++ (cursor.calls count).2.rest = cursor.rest ∧
      (cursor.calls count).2.offset =
        cursor.offset + Text.byteLength ((cursor.calls count).1.flatMap Token.source) := by
  induction count with
  | zero => exact fun cursor => ⟨rfl, rfl⟩
  | succ count ih =>
    intro cursor
    obtain ⟨whole, length⟩ := ih cursor.next.2
    have taken : cursor.next.1.source ++ cursor.next.2.rest = cursor.rest :=
      scan_source cursor.afterClose cursor.rest
    have counted : cursor.next.2.offset = cursor.offset + cursor.next.1.source.byteLength := rfl
    rw [calls, List.flatMap_cons]
    dsimp only
    constructor
    · rw [List.append_assoc, whole, taken]
    · rw [length, counted, Text.byteLength_append, Nat.add_assoc]

/-- As many calls as there are tokens answer the tokens. -/
theorem calls_tokens (cursor : Cursor) : (cursor.calls cursor.tokens.length).1 = cursor.tokens := by
  obtain ⟨rest, offset, afterClose⟩ := cursor
  simp only [tokens]
  fun_induction scanAll afterClose rest generalizing offset with
  | case1 => rfl
  | case2 afterClose c rest ih =>
    rw [List.length_cons, calls, next]
    exact congrArg _ (ih _)

end Cursor

/-- The tokens of a text are tokens with characters and then the end of the input. -/
theorem scanAll_eq_append (afterClose : Bool) (text : Text) :
    ∃ tokens, scanAll afterClose text = tokens ++ [.endOfInput] ∧ ∀ token ∈ tokens, token.source ≠ [] := by
  fun_induction scanAll afterClose text with
  | case1 => exact ⟨[], rfl, by simp⟩
  | case2 afterClose c rest ih =>
    obtain ⟨tokens, more, characters⟩ := ih
    refine ⟨(scan afterClose (c :: rest)).1 :: tokens, by rw [more]; rfl, ?_⟩
    intro token member
    rcases List.mem_cons.mp member with rfl | member
    · exact scan_source_ne_nil afterClose c rest
    · exact characters token member

/-- Whether a closing parenthesis is the last of some tokens; `afterClose` says so if there are none. -/
def endsInCloser (afterClose : Bool) (tokens : List Token) : Bool := tokens.getLast?.elim afterClose (· = .closer)

theorem endsInCloser_cons (afterClose : Bool) (token : Token) (tokens : List Token) :
    endsInCloser afterClose (token :: tokens) = endsInCloser (token = .closer) tokens := by
  rw [endsInCloser, endsInCloser, List.getLast?_cons]
  cases tokens.getLast? <;> rfl

/-- Each token of a text is read off the characters of it and the tokens behind it. -/
theorem scan_of_scanAll {afterClose : Bool} {text : Text} {token : Token} {before after : List Token}
    (whole : scanAll afterClose text = before ++ token :: after) :
    scan (endsInCloser afterClose before) ((token :: after).flatMap Token.source) =
      (token, after.flatMap Token.source) := by
  induction before generalizing afterClose text with
  | nil =>
    have first : (scan afterClose text).1 = token := by
      cases text <;> (rw [scanAll] at whole; exact (List.cons.inj whole).1)
    have source := flatMap_source_scanAll afterClose text
    rw [whole, List.nil_append] at source
    have taken := scan_source afterClose text
    rw [first, ← source, List.flatMap_cons] at taken
    exact Prod.ext (source ▸ first) (List.append_cancel_left taken)
  | cons first before ih =>
    rw [endsInCloser_cons]
    cases text with
    | nil => simp [scanAll] at whole
    | cons c rest =>
      rw [scanAll] at whole
      obtain ⟨rfl, behind⟩ := List.cons.inj whole
      exact ih behind

/-- The tokens of an input lose and invent nothing and come to an end. Reading them by byte offset takes no
slice that is not there and lets no count go below zero, and after every call the offset is the length of
what was answered. -/
theorem tokens_cover_input (input : Text) :
    (∃ tokens bytes, (Cursor.start input).tokens = tokens ++ [.endOfInput] ∧
      (ByteCursor.start input).calls? (tokens.length + 1) = some (tokens ++ [.endOfInput], bytes) ∧
      (∀ token ∈ tokens, token ≠ .endOfInput ∧ token.source ≠ []) ∧ tokens.flatMap Token.source = input) ∧
    (∀ count, ∃ bytes, (ByteCursor.start input).calls? count =
        some (((Cursor.start input).calls count).1, bytes) ∧
      bytes.position = ((Cursor.start input).calls count).2.offset ∧
      bytes.position = Text.byteLength (((Cursor.start input).calls count).1.flatMap Token.source) ∧
      ∃ rest, input.fromByte? bytes.position = some rest ∧
        ((Cursor.start input).calls count).1.flatMap Token.source ++ rest = input) ∧
    ∀ position rest, input.fromByte? position = some ('[' :: rest) →
      ∃ stop, ByteCursor.classEnd? input position = some stop ∧
        input.fromByte? stop = some (dropClass rest) := by
  refine ⟨?_, fun count => ?_, fun position rest => ByteCursor.classEnd?_stands⟩
  · obtain ⟨tokens, all, characters⟩ := scanAll_eq_append false input
    have answered := Cursor.calls_tokens (Cursor.start input)
    have whole := flatMap_source_scanAll false input
    obtain ⟨bytes, called, -⟩ := (ByteCursor.Follows.start input).calls (tokens.length + 1)
    have length : (Cursor.start input).tokens.length = tokens.length + 1 := by
      rw [Cursor.tokens, Cursor.start, all, List.length_append]
      rfl
    rw [length] at answered
    rw [answered] at called
    refine ⟨tokens, bytes, all, called.trans (congrArg (fun tokens => some (tokens, bytes)) all), ?_, ?_⟩
    · intro token member
      refine ⟨?_, characters token member⟩
      rintro rfl
      exact characters _ member rfl
    · rw [all, List.flatMap_append] at whole
      simpa [Token.source] using whole
  · obtain ⟨bytes, called, follows⟩ := (ByteCursor.Follows.start input).calls count
    obtain ⟨whole, length⟩ := Cursor.calls_source count (Cursor.start input)
    refine ⟨bytes, called, follows.position_eq, ?_, _, follows.stands, whole⟩
    rw [follows.position_eq, length]
    exact Nat.zero_add _

/-- A class within a class, whose first member is a closing bracket. -/
theorem tokens_cover_input_nested :
    Text.fromByte? "[^]é[b]]x".toList 0 = some ('[' :: "^]é[b]]x".toList) ∧
      ∃ stop, ByteCursor.classEnd? "[^]é[b]]x".toList 0 = some stop ∧
        Text.fromByte? "[^]é[b]]x".toList stop = some ['x'] := by
  have stands : Text.fromByte? "[^]é[b]]x".toList 0 = some ('[' :: "^]é[b]]x".toList) := by decide
  have left : dropClass "^]é[b]]x".toList = ['x'] := by decide
  refine ⟨stands, ?_⟩
  rw [← left]
  exact (tokens_cover_input _).2.2 0 _ stands

end GroupUnroll
