import GroupUnroll.Proofs.OpenGroups

/-! # Character classes by a grammar

Passing a class is counting: how many classes are open, and where the one opened last has its first member. The
grammar knows nothing of this. A class is brackets around something that stands first, which may be a closing
bracket, and members, which may be classes.

A text of the grammar is passed wherever it stands, so what a class leaves behind it is settled by its characters
and no text starts with two classes. The other way round, a text that starts with no class closes none of the
classes that are open before it, and is passed to its end. Both go by the grammar, with as many open classes around
as one likes.

A run of plain text passes each class that it meets in one round, so it ends behind it.
-/

namespace GroupUnroll

/-! ## The grammar -/

/-- The parts that a class is made of. -/
inductive ClassForm
  /-- A whole class, with its brackets. -/
  | bracketed
  /-- What stands first in a class, behind the negating caret if there is one. -/
  | first
  | member
  /-- Members in a row, or none. -/
  | members

namespace ClassForm

/-- Which texts have a form. A caret directly behind an opening bracket negates, so it is not what stands first. -/
inductive Derives : ClassForm → Text → Prop
  | plain {head tail : Text} (first : Derives .first head) (unmarked : head.head? ≠ some '^')
      (members : Derives .members tail) : Derives .bracketed ('[' :: (head ++ (tail ++ [']'])))
  | negated {head tail : Text} (first : Derives .first head) (members : Derives .members tail) :
      Derives .bracketed ('[' :: '^' :: (head ++ (tail ++ [']'])))
  | closing : Derives .first [']']
  | begin {text : Text} (member : Derives .member text) : Derives .first text
  | escaped (c : Char) : Derives .member ['\\', c]
  | nested {text : Text} (bracketed : Derives .bracketed text) : Derives .member text
  | char {c : Char} (backslash : c ≠ '\\') (opening : c ≠ '[') (closing : c ≠ ']') : Derives .member [c]
  | none : Derives .members []
  | more {text rest : Text} (member : Derives .member text) (members : Derives .members rest) :
      Derives .members (text ++ rest)

end ClassForm

/-! ## A text with a form is passed -/

/-- What is left behind a class that lies in `outer` others, and behind those. -/
def dropOuter : (outer : Nat) → Text → Text
  | 0, text => text
  | outer + 1, text => dropClassFrom outer .inside text

/-- Whether a member that starts a text may stand at a place. -/
def ClassPlace.Takes (place : ClassPlace) (text : Text) : Prop :=
  place ≠ .escaped ∧ (place = .opened → text.head? ≠ some '^')

section Dropping

variable {outer : Nat} {place : ClassPlace} {c : Char} {text rest : Text}

theorem ClassPlace.takes_inside : ClassPlace.inside.Takes text := ⟨by simp, by simp⟩

theorem ClassPlace.takes_negated : ClassPlace.negated.Takes text := ⟨by simp, by simp⟩

theorem dropClassFrom_closing : dropClassFrom outer .inside (']' :: rest) = dropOuter outer rest := by
  cases outer <;> simp [dropClassFrom, dropOuter]

theorem dropClassFrom_first (outside : place ≠ .inside) (unescaped : place ≠ .escaped) :
    dropClassFrom outer place (']' :: rest) = dropClassFrom outer .inside rest := by
  simp [dropClassFrom, outside, unescaped]

theorem dropClassFrom_caret : dropClassFrom outer .opened ('^' :: rest) = dropClassFrom outer .negated rest := by
  simp [dropClassFrom]

theorem dropClassFrom_bracket (unescaped : place ≠ .escaped) :
    dropClassFrom outer place ('[' :: rest) = dropClassFrom (outer + 1) .opened rest := by
  simp [dropClassFrom, unescaped]

theorem dropClassFrom_backslash (unescaped : place ≠ .escaped) :
    dropClassFrom outer place ('\\' :: c :: rest) = dropClassFrom outer .inside rest := by
  simp [dropClassFrom, unescaped]

theorem dropClassFrom_char (takes : place.Takes (c :: rest)) (backslash : c ≠ '\\') (opening : c ≠ '[')
    (closing : c ≠ ']') : dropClassFrom outer place (c :: rest) = dropClassFrom outer .inside rest := by
  have member : ¬ (c = '^' ∧ place = .opened) := fun ⟨caret, opened⟩ => takes.2 opened (congrArg some caret)
  simp [dropClassFrom, takes.1, backslash, opening, closing, member]

end Dropping

namespace ClassForm

/-- What passing a text of a form means: the class goes on inside behind it, and a class is left. -/
def Passes : ClassForm → Text → Prop
  | .bracketed, text => ∃ body, text = '[' :: body ∧
      ∀ outer rest, dropClassFrom outer .opened (body ++ rest) = dropOuter outer rest
  | .first, text => ∀ outer place rest, place ≠ .inside → place.Takes text →
      dropClassFrom outer place (text ++ rest) = dropClassFrom outer .inside rest
  | .member, text => ∀ outer place rest, place.Takes text →
      dropClassFrom outer place (text ++ rest) = dropClassFrom outer .inside rest
  | .members, text => ∀ outer rest,
      dropClassFrom outer .inside (text ++ rest) = dropClassFrom outer .inside rest

/-- A text with a form is passed, whatever stands behind it. -/
theorem Derives.passes {form : ClassForm} {text : Text} (derives : form.Derives text) : form.Passes text := by
  induction derives with
  | @plain head tail _ unmarked _ first members =>
    refine ⟨head ++ (tail ++ [']']), rfl, fun outer rest => ?_⟩
    rw [List.append_assoc, List.append_assoc, first outer .opened _ (by simp) ⟨by simp, fun _ => unmarked⟩, members]
    exact dropClassFrom_closing
  | @negated head tail _ _ first members =>
    refine ⟨'^' :: (head ++ (tail ++ [']'])), rfl, fun outer rest => ?_⟩
    rw [List.cons_append, dropClassFrom_caret, List.append_assoc, List.append_assoc,
      first outer .negated _ (by simp) ClassPlace.takes_negated, members]
    exact dropClassFrom_closing
  | closing => exact fun outer place rest outside takes => dropClassFrom_first outside takes.1
  | begin _ member => exact fun outer place rest _ takes => member outer place rest takes
  | escaped c => exact fun outer place rest takes => dropClassFrom_backslash takes.1
  | nested _ bracketed =>
    obtain ⟨body, rfl, passed⟩ := bracketed
    intro outer place rest takes
    rw [List.cons_append, dropClassFrom_bracket takes.1, passed]
    rfl
  | char backslash opening closing =>
    exact fun outer place rest takes => dropClassFrom_char takes backslash opening closing
  | none => exact fun outer rest => rfl
  | more _ _ member members =>
    intro outer rest
    rw [List.append_assoc, member outer .inside _ ClassPlace.takes_inside, members]

end ClassForm

/-! ## A text is passed or is never closed -/

/-- However many classes are open at a place, a text closes none of them. -/
def NeverClosed (place : ClassPlace) (text : Text) : Prop := ∀ outer, dropClassFrom outer place text = []

/-- The rest of a class starts a text that stands behind an opening bracket, or the class is never closed. -/
def OpenedDecided (text : Text) : Prop :=
  (∃ body rest, ClassForm.bracketed.Derives ('[' :: body) ∧ text = body ++ rest) ∨ NeverClosed .opened text

/-- Members and a closing bracket start a text that stands in a class, or the class is never closed. -/
def InsideDecided (text : Text) : Prop :=
  (∃ members rest, ClassForm.members.Derives members ∧ text = members ++ ']' :: rest) ∨ NeverClosed .inside text

section Decided

variable {place : ClassPlace} {c : Char} {text rest : Text}

/-- A member starts a text that does not start with a closing bracket, if nested classes are decided. -/
theorem member_or_never_closed (closing : c ≠ ']') (nested : OpenedDecided rest) :
    (∃ member behind, ClassForm.member.Derives member ∧ c :: rest = member ++ behind ∧
      behind.length ≤ rest.length) ∨ (place.Takes (c :: rest) → NeverClosed place (c :: rest)) := by
  by_cases backslash : c = '\\'
  · subst backslash
    rcases rest with _ | ⟨d, rest⟩
    · right
      intro takes outer
      simp [dropClassFrom, takes.1]
    · exact .inl ⟨['\\', d], rest, .escaped d, rfl, by simp⟩
  by_cases opening : c = '['
  · subst opening
    rcases nested with ⟨body, behind, bracketed, rfl⟩ | never
    · exact .inl ⟨_, behind, .nested bracketed, rfl, by simp⟩
    · right
      intro takes outer
      rw [dropClassFrom_bracket takes.1]
      exact never _
  · exact .inl ⟨[c], rest, .char backslash opening closing, rfl, Nat.le_refl _⟩

/-- The same of what stands first in a class, which may be a closing bracket. -/
theorem first_or_never_closed (takes : place.Takes text)
    (nested : ∀ rest, rest.length < text.length → OpenedDecided rest) :
    (∃ head behind, ClassForm.first.Derives head ∧ text = head ++ behind ∧ behind.length < text.length) ∨
      NeverClosed place text := by
  rcases text with _ | ⟨c, rest⟩
  · exact .inr fun outer => by simp [dropClassFrom]
  by_cases closing : c = ']'
  · subst closing
    exact .inl ⟨[']'], rest, .closing, rfl, Nat.lt_succ_self _⟩
  · rcases member_or_never_closed closing (nested rest (Nat.lt_succ_self _)) with
      ⟨member, behind, derives, whole, shorter⟩ | never
    · exact .inl ⟨member, behind, .begin derives, whole, Nat.lt_succ_of_le shorter⟩
    · exact .inr (never takes)

theorem inside_decided (nested : ∀ rest, rest.length < text.length → OpenedDecided rest)
    (shorter : ∀ rest, rest.length < text.length → InsideDecided rest) : InsideDecided text := by
  rcases text with _ | ⟨c, rest⟩
  · exact .inr fun outer => by simp [dropClassFrom]
  by_cases closing : c = ']'
  · subst closing
    exact .inl ⟨[], rest, .none, rfl⟩
  rcases member_or_never_closed closing (nested rest (Nat.lt_succ_self _)) with
    ⟨member, behind, derives, whole, less⟩ | never
  · rw [whole]
    rcases shorter behind (Nat.lt_succ_of_le less) with ⟨members, later, goesOn, rfl⟩ | never
    · exact .inl ⟨member ++ members, later, .more derives goesOn, (List.append_assoc ..).symm⟩
    · right
      intro outer
      rw [derives.passes outer .inside _ ClassPlace.takes_inside]
      exact never outer
  · exact .inr (never ClassPlace.takes_inside)

/-- What stands first is followed by members and a closing bracket, or the class is never closed. -/
theorem body_or_never_closed (outside : place ≠ .inside) (takes : place.Takes text)
    (nested : ∀ rest, rest.length < text.length → OpenedDecided rest)
    (shorter : ∀ rest, rest.length < text.length → InsideDecided rest) :
    (∃ head tail rest, ClassForm.first.Derives head ∧ ClassForm.members.Derives tail ∧ head.head? = text.head? ∧
      text = head ++ (tail ++ [']']) ++ rest) ∨ NeverClosed place text := by
  rcases first_or_never_closed takes nested with ⟨head, behind, first, rfl, less⟩ | never
  · have same : head.head? = (head ++ behind).head? := by
      cases head with
      | nil => exact absurd less (Nat.lt_irrefl _)
      | cons c head => rfl
    rcases shorter behind less with ⟨tail, rest, members, rfl⟩ | never
    · exact .inl ⟨head, tail, rest, first, members, same, by simp⟩
    · right
      intro outer
      have unmarked : place.Takes head := ⟨takes.1, fun opened => same ▸ takes.2 opened⟩
      rw [first.passes outer place _ outside unmarked]
      exact never outer
  · exact .inr never

theorem opened_decided (nested : ∀ rest, rest.length < text.length → OpenedDecided rest)
    (shorter : ∀ rest, rest.length < text.length → InsideDecided rest) : OpenedDecided text := by
  by_cases caret : text.head? = some '^'
  · obtain ⟨text, rfl⟩ := List.head?_eq_some_iff.mp caret
    have less (rest : Text) (before : rest.length < text.length) : rest.length < ('^' :: text).length :=
      Nat.lt_succ_of_lt before
    have outside : ClassPlace.negated ≠ .inside := by simp
    rcases body_or_never_closed outside ClassPlace.takes_negated
      (fun rest before => nested rest (less rest before)) (fun rest before => shorter rest (less rest before)) with
      ⟨head, tail, rest, first, members, -, rfl⟩ | never
    · exact .inl ⟨_, rest, .negated first members, rfl⟩
    · right
      intro outer
      rw [dropClassFrom_caret]
      exact never outer
  · have outside : ClassPlace.opened ≠ .inside := by simp
    rcases body_or_never_closed outside ⟨by simp, fun _ => caret⟩ nested shorter with
      ⟨head, tail, rest, first, members, same, whole⟩ | never
    · exact .inl ⟨_, rest, .plain first (same ▸ caret) members, whole⟩
    · exact .inr never

/-- Every text is decided, since it is once every shorter text is. -/
theorem decided (text : Text) : OpenedDecided text ∧ InsideDecided text := by
  induction length : text.length using Nat.strongRecOn generalizing text with
  | ind size ih =>
    subst length
    have nested (rest : Text) (less : rest.length < text.length) := (ih _ less rest rfl).1
    have shorter (rest : Text) (less : rest.length < text.length) := (ih _ less rest rfl).2
    exact ⟨opened_decided nested shorter, inside_decided nested shorter⟩

end Decided

/-! ## Classes in a text -/

/-- Whether a text starts with a class. -/
def StartsClass (bracketed text : Text) : Prop := ClassForm.bracketed.Derives bracketed ∧ bracketed <+: text

section Classes

variable {bracketed other text rest : Text}

/-- A class that starts a text is passed. -/
theorem StartsClass.eq_append (starts : StartsClass bracketed ('[' :: rest)) :
    '[' :: rest = bracketed ++ dropClass rest := by
  obtain ⟨derives, behind, whole⟩ := starts
  obtain ⟨body, rfl, passed⟩ := derives.passes
  obtain rfl : body ++ behind = rest := (List.cons.inj whole).2
  rw [dropClass, passed 0 behind]
  rfl

/-- A text starts with at most one class. -/
theorem StartsClass.unique (first : StartsClass bracketed ('[' :: rest)) (second : StartsClass other ('[' :: rest)) :
    bracketed = other :=
  List.append_cancel_right (first.eq_append.symm.trans second.eq_append)

/-- A class is never closed if the text does not start with one. -/
theorem dropClass_of_no_class (none : ∀ bracketed, ¬ StartsClass bracketed ('[' :: rest)) : dropClass rest = [] := by
  rcases (decided rest).1 with ⟨body, behind, derives, rfl⟩ | never
  · exact absurd ⟨derives, List.prefix_append ('[' :: body) behind⟩ (none _)
  · exact never 0

end Classes

/-! ## Runs of plain text -/

namespace ByteCursor

/-- The offsets that the rounds through plain text from an offset come to. -/
inductive ComesTo (input : Text) (start : Nat) : Nat → Prop
  | start : ComesTo input start start
  | round {position next : Nat} (comes : ComesTo input start position)
      (went : plainStep? input position = some (.inl next)) : ComesTo input start next

variable {input : Text} {start position opened closed : Nat}

theorem ComesTo.le (comes : ComesTo input start position) : start ≤ position := by
  induction comes with
  | start => exact Nat.le_refl _
  | round _ went ih => exact Nat.le_trans ih (Nat.le_of_lt (plainStep?_lt went).1)

/-- The end of a run does not depend on the round from which it is looked for. -/
theorem ComesTo.plainEnd?_eq (comes : ComesTo input start position) :
    plainEnd? input start = plainEnd? input position := by
  induction comes with
  | start => rfl
  | round _ went ih => rw [ih, plainEnd?_of_more went]

/-- A round that comes to a class goes on behind it. -/
theorem ComesTo.behindClass (comes : ComesTo input start opened) (bracket : peek? input opened = some (some '['))
    (passed : classEnd? input opened = some closed) : ComesTo input start closed := by
  refine comes.round ?_
  have goesOn : endsPlainText '[' = false := by decide
  simp [plainStep?, bracket, goesOn, passed]

end ByteCursor

/-- A class, or what is left of the input if it is never closed, that a run of plain text comes to: its bracket stands
at `opened`, and the offset behind it is `closed`. -/
structure MeetsClass (input : Text) (run : LocatedToken) (opened closed : Nat) : Prop where
  member : run ∈ locatedTokens input
  /-- It is no comment, setting, at sign or backslash, which are plain text as well. -/
  isRun : ∃ c rest, run.token = .plain (c :: rest) ∧ endsPlainText c = false
  comes : ByteCursor.ComesTo input run.start opened
  bracket : ByteCursor.peek? input opened = some (some '[')
  passed : ByteCursor.classEnd? input opened = some closed

/-- A run of plain text is a token by itself, up to the character that ends it. -/
theorem plainEnd?_of_run {input : Text} {run : LocatedToken} (member : run ∈ locatedTokens input)
    (isRun : ∃ c rest, run.token = .plain (c :: rest) ∧ endsPlainText c = false) :
    ByteCursor.plainEnd? input run.start = some (run.start + run.source.byteLength) := by
  obtain ⟨before, after, whole⟩ := List.append_of_mem member
  obtain ⟨stands, read⟩ := scan_of_locatedTokens whole
  obtain ⟨c, rest, plain, goesOn⟩ := isRun
  have source : run.source = c :: rest := congrArg Token.source plain
  have taken := scan_of_no_quantifier read (by simp [plain])
  rw [source, List.cons_append, scan_plain goesOn, plain] at taken
  rw [source] at stands ⊢
  rw [ByteCursor.plainEnd?_eq stands]
  exact congrArg some (congrArg _ (congrArg Text.byteLength (Token.plain.inj (Prod.mk.inj taken).1)))

namespace MeetsClass

variable {input : Text} {run located : LocatedToken} {opened closed : Nat}

/-- A run goes on through every class that it meets. -/
theorem closed_le (meets : MeetsClass input run opened closed) : closed ≤ run.start + run.source.byteLength := by
  obtain ⟨member, isRun, comes, bracket, passed⟩ := meets
  have ends := plainEnd?_of_run member isRun
  rw [(comes.behindClass bracket passed).plainEnd?_eq] at ends
  obtain ⟨text, stands, starts⟩ := Option.map_eq_some_iff.mp bracket
  obtain ⟨rest, rfl⟩ := List.head?_eq_some_iff.mp starts
  obtain ⟨stop, again, behind⟩ := ByteCursor.classEnd?_stands stands
  obtain rfl := Option.some.inj (passed.symm.trans again)
  rw [ByteCursor.plainEnd?_eq behind] at ends
  exact Nat.le.intro (Option.some.inj ends)

/-- No token starts in a class that a run meets. -/
theorem apart (meets : MeetsClass input run opened closed) (member : located ∈ locatedTokens input) :
    located.start ≤ opened ∨ closed ≤ located.start := by
  have begins := meets.comes.le
  have ends := meets.closed_le
  obtain ⟨before, after, whole⟩ := List.append_of_mem meets.member
  have ordered := pairwise_locate 0 (scanAll false input)
  rw [← locatedTokens, whole, List.pairwise_append, List.pairwise_cons] at ordered
  rw [whole] at member
  obtain ⟨-, ⟨behind, -⟩, across⟩ := ordered
  rcases List.mem_append.mp member with first | later
  · have less := across located first run (List.mem_cons_self ..)
    exact .inl (by omega)
  rcases List.mem_cons.mp later with rfl | last
  · exact .inl begins
  · have less := behind located last
    exact .inr (by omega)

end MeetsClass

/-- At every opening bracket the class loop passes the one prefix of what is left that is a class by the grammar, or
comes to the end of the input if there is none. In a run of plain text every class that it meets, or what is left of
the input, lies in the one token, and no other token starts in it. -/
theorem classes_passed_exactly (input : Text) :
    (∀ opened rest, input.fromByte? opened = some ('[' :: rest) →
      ∃ closed, ByteCursor.classEnd? input opened = some closed ∧
        ((∃ bracketed, StartsClass bracketed ('[' :: rest) ∧ closed = opened + bracketed.byteLength ∧
            ∀ other, StartsClass other ('[' :: rest) → other = bracketed) ∨
          (closed = input.byteLength ∧ ∀ other, ¬ StartsClass other ('[' :: rest)))) ∧
    ∀ run opened closed, MeetsClass input run opened closed →
      run.start ≤ opened ∧ closed ≤ run.start + run.source.byteLength ∧
        ∀ located ∈ locatedTokens input, located.start ≤ opened ∨ closed ≤ located.start := by
  constructor
  · intro opened rest stands
    obtain ⟨closed, passed, behind⟩ := ByteCursor.classEnd?_stands stands
    refine ⟨closed, passed, ?_⟩
    have total := Text.add_byteLength_of_fromByte? stands
    have left := Text.add_byteLength_of_fromByte? behind
    by_cases some_class : ∃ bracketed, StartsClass bracketed ('[' :: rest)
    · obtain ⟨bracketed, starts⟩ := some_class
      refine .inl ⟨bracketed, starts, ?_, fun other again => again.unique starts⟩
      rw [starts.eq_append, Text.byteLength_append] at total
      omega
    · have none := not_exists.mp some_class
      refine .inr ⟨?_, none⟩
      rw [dropClass_of_no_class none] at left
      exact left
  · intro run opened closed meets
    exact ⟨meets.comes.le, meets.closed_le, fun located member => meets.apart member⟩

/-- A negated class with a class in it, both with a closing bracket first, and a class that is never closed behind a
reference. -/
def nestedClasses : Text := "x[^]é[]a]\\]]@b[c".toList

/-- The first run meets a class behind its first character, and the second one starts with a class. -/
theorem classes_passed_exactly_nested :
    nestedClasses.fromByte? 1 = some ('[' :: "^]é[]a]\\]]@b[c".toList) ∧
    (∃ bracketed, StartsClass bracketed ('[' :: "^]é[]a]\\]]@b[c".toList) ∧ 13 = 1 + bracketed.byteLength) ∧
    MeetsClass nestedClasses ⟨.plain "x[^]é[]a]\\]]".toList, 0⟩ 1 13 ∧
    (∀ located ∈ locatedTokens nestedClasses, located.start ≤ 1 ∨ 13 ≤ located.start) ∧
    MeetsClass nestedClasses ⟨.plain "[c".toList, 15⟩ 15 17 ∧
    (∀ located ∈ locatedTokens nestedClasses, located.start ≤ 15 ∨ 17 ≤ located.start) := by
  obtain ⟨passed, met⟩ := classes_passed_exactly nestedClasses
  have stands : nestedClasses.fromByte? 1 = some ('[' :: "^]é[]a]\\]]@b[c".toList) := by decide
  have first : MeetsClass nestedClasses ⟨.plain "x[^]é[]a]\\]]".toList, 0⟩ 1 13 := by
    refine ⟨by decide +kernel, ⟨'x', _, rfl, by decide⟩, .round .start ?_, by decide, ?_⟩
    · with_unfolding_all rfl
    · with_unfolding_all rfl
  have second : MeetsClass nestedClasses ⟨.plain "[c".toList, 15⟩ 15 17 := by
    refine ⟨by decide +kernel, ⟨'[', _, rfl, by decide⟩, .start, by decide, ?_⟩
    with_unfolding_all rfl
  obtain ⟨closed, ends, starts | ⟨last, -⟩⟩ := passed 1 _ stands
  · obtain rfl := Option.some.inj (first.passed.symm.trans ends)
    obtain ⟨bracketed, derived, length, -⟩ := starts
    exact ⟨stands, ⟨bracketed, derived, length⟩, first, (met _ _ _ first).2.2, second, (met _ _ _ second).2.2⟩
  · obtain rfl := Option.some.inj (first.passed.symm.trans ends)
    exact absurd last (by decide)

end GroupUnroll
