import GroupUnroll.Proofs.Coverage

/-! # Calls at an opening parenthesis

The byte cursor searches for the ends of names, flags and comments through all that is left of the input. What it
answers at an opening parenthesis is what the local rule decides on, whatever characters may stand in a name, as
long as the two that end one may not. So the text of an opener is all that its kind depends on: on its own it is the
same opener, and then the input ends.
-/

namespace GroupUnroll

namespace ByteCursor

variable {isName : Char → Bool} {cursor next : ByteCursor} {text rest opening : Text} {kind : GroupKind}

/-- A call at an opening parenthesis answers what the rule decides on. -/
theorem nextBy?_opening (angle : isName '>' = false) (quote : isName '\x27' = false)
    (stands : cursor.input.fromByte? cursor.position = some ('(' :: rest)) :
    cursor.nextBy? isName = some (openerToken isName rest,
      ⟨cursor.input, cursor.position + (openerToken isName rest).source.byteLength, false⟩) := by
  have answered := group?_answers angle quote stands
  rw [Answers] at answered
  simp [nextBy?, tokenBy?, peek?_of_fromByte? stands, answered]

/-- Which characters may stand in a name matters at opening parentheses only. -/
theorem nextBy?_elsewhere (stands : cursor.input.fromByte? cursor.position = some text)
    (other : text.head? ≠ some '(') : cursor.nextBy? isName = cursor.next? := by
  have peeked := peek?_of_fromByte? stands
  rcases text with _ | ⟨c, rest⟩
  · simp [next?, nextBy?, tokenBy?, peeked]
  · have unopened : c ≠ '(' := fun same => other (congrArg some same)
    simp [next?, nextBy?, tokenBy?, peeked, unopened]

theorem nextBy?_at_end (stands : cursor.input.fromByte? cursor.position = some []) :
    cursor.nextBy? isName = some (.endOfInput, ⟨cursor.input, cursor.position, false⟩) := by
  simp [nextBy?, tokenBy?, peek?_of_fromByte? stands]

/-- Openers are answered at opening parentheses only, and are decided on by the rule. -/
theorem exists_rest_of_nextBy? (angle : isName '>' = false) (quote : isName '\x27' = false)
    (answered : cursor.nextBy? isName = some (.opener kind opening, next)) :
    ∃ rest, cursor.input.fromByte? cursor.position = some ('(' :: rest) ∧
      openerToken isName rest = .opener kind opening := by
  cases stands : cursor.input.fromByte? cursor.position with
  | none =>
    have unseen : peek? cursor.input cursor.position = none := by rw [peek?, stands]; rfl
    simp [nextBy?, unseen] at answered
  | some text =>
    by_cases opens : text.head? = some '('
    · obtain ⟨rest, rfl⟩ := List.head?_eq_some_iff.mp opens
      rw [nextBy?_opening angle quote stands] at answered
      exact ⟨rest, rfl, (Prod.mk.inj (Option.some.inj answered)).1⟩
    · have follows : cursor.Follows cursor.input ⟨text, cursor.position, cursor.afterClose⟩ :=
        ⟨rfl, stands, rfl, rfl⟩
      obtain ⟨later, found, -⟩ := follows.next
      rw [nextBy?_elsewhere stands opens, found] at answered
      have read : (scan cursor.afterClose text).1 = .opener kind opening :=
        (Prod.mk.inj (Option.some.inj answered)).1
      obtain ⟨rest, rfl, -⟩ := scanOpener_of_scan (Prod.ext read rfl)
      exact absurd rfl opens

/-- The text of an opener on its own is the opener, and then the input ends. -/
theorem callsBy?_opening (angle : isName '>' = false) (quote : isName '\x27' = false)
    (decided : openerToken isName rest = .opener kind opening) :
    (start opening).callsBy? isName 2 =
      some ([.opener kind opening, .endOfInput], ⟨opening, Text.byteLength opening, false⟩) := by
  obtain ⟨tail, rfl, again⟩ := openerToken_opening angle quote decided
  generalize whole : '(' :: tail = opening at again ⊢
  have stands : (start opening).input.fromByte? (start opening).position = some ('(' :: tail) := by
    rw [whole]
    exact Text.fromByte?_zero opening
  have first := nextBy?_opening angle quote stands
  rw [again, Token.source, start, Nat.zero_add] at first
  have ended : Text.fromByte? opening (Text.byteLength opening) = some [] := by
    have behind := Text.fromByte?_append opening []
    rwa [List.append_nil] at behind
  have last : nextBy? isName ⟨opening, Text.byteLength opening, false⟩ =
      some (.endOfInput, ⟨opening, Text.byteLength opening, false⟩) := nextBy?_at_end ended
  simp [callsBy?, start, first, last]

end ByteCursor

/-- What an opening parenthesis starts is decided by a local rule. The byte cursor answers by it wherever it stands,
whichever characters may stand in a name, if the two that end one may not; and every opener that it answers is, on
its own, the same opener and then the end. Both hold as well of the tokens that patterns are cut into. -/
theorem openers_decided_locally :
    (∀ isName : Char → Bool, isName '>' = false → isName '\x27' = false →
      (∀ (cursor : ByteCursor) rest, cursor.input.fromByte? cursor.position = some ('(' :: rest) →
        cursor.nextBy? isName = some (openerToken isName rest,
          ⟨cursor.input, cursor.position + (openerToken isName rest).source.byteLength, false⟩)) ∧
      ∀ (cursor next : ByteCursor) kind opening, cursor.nextBy? isName = some (.opener kind opening, next) →
        (ByteCursor.start opening).callsBy? isName 2 =
          some ([.opener kind opening, .endOfInput], ⟨opening, Text.byteLength opening, false⟩)) ∧
    (∀ afterClose rest, ∃ behind, scan afterClose ('(' :: rest) = (openerToken isNameChar rest, behind)) ∧
    ∀ pattern kind opening, .opener kind opening ∈ (Cursor.start pattern).tokens →
      (Cursor.start opening).tokens = [.opener kind opening, .endOfInput] := by
  refine ⟨fun isName angle quote => ⟨fun cursor rest => ByteCursor.nextBy?_opening angle quote, ?_⟩, ?_, ?_⟩
  · intro cursor next kind opening answered
    obtain ⟨rest, -, decided⟩ := ByteCursor.exists_rest_of_nextBy? angle quote answered
    exact ByteCursor.callsBy?_opening angle quote decided
  · intro afterClose rest
    exact ⟨_, Prod.ext (scanOpener_eq_openerToken rest) rfl⟩
  · intro pattern kind opening member
    obtain ⟨afterClose, text, next, read⟩ := exists_scan_of_mem member
    exact tokens_opening read

/-- Every character but the two that end a name. -/
def isWideNameChar (c : Char) : Bool := c != '>' && c != '\x27'

/-- A name with an equals sign and a parenthesis in it, and a flag setting behind a name that is not ended. -/
theorem openers_decided_locally_wide :
    (⟨"é(?P<a=)>b".toList, 2, false⟩ : ByteCursor).nextBy? isWideNameChar =
      some (.opener (.named "a=)".toList) "(?P<a=)>".toList, ⟨"é(?P<a=)>b".toList, 10, false⟩) ∧
    (ByteCursor.start "(?P<a=)>".toList).callsBy? isWideNameChar 2 =
      some ([.opener (.named "a=)".toList) "(?P<a=)>".toList, .endOfInput], ⟨"(?P<a=)>".toList, 8, false⟩) ∧
    (Cursor.start "(?i-s:".toList).tokens = [.opener (.flags "i-s".toList) "(?i-s:".toList, .endOfInput] := by
  obtain ⟨byBytes, -, onItsOwn⟩ := openers_decided_locally
  obtain ⟨decided, alone⟩ := byBytes isWideNameChar (by decide) (by decide)
  have first := decided ⟨"é(?P<a=)>b".toList, 2, false⟩ "?P<a=)>b".toList (by decide)
  exact ⟨first, alone _ _ _ _ first, onItsOwn "(?<a(?i-s:é)".toList _ _ (by decide +kernel)⟩

end GroupUnroll
