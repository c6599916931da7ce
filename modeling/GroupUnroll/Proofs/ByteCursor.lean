import GroupUnroll.Proofs.OpenerRule

/-! # Byte offsets and what stands at them

Each reader that works by byte offset finds the token that `scan` finds in what stands at its offset, and
answers the offset behind the token. Every slice that it takes is there, since its ends are where a piece of
what stands at the offset begins and ends, and these pieces are the ones `scan` takes.
-/

namespace GroupUnroll

theorem Text.lengthThrough_eq {stop : Char} (oneByte : stop.utf8Size = 1) (text : Text) :
    text.lengthThrough stop = byteLength (before text (dropThrough stop text)) := by
  induction text with
  | nil => rfl
  | cons c rest ih =>
    rw [lengthThrough, findByte?, dropThrough]
    by_cases here : c = stop
    · subst here
      rw [if_pos (by simp), if_pos rfl, before_cons _ (List.suffix_refl _), before_self]
      simp [oneByte]
    · rw [if_neg (by simpa using here), if_neg here, before_cons _ (dropThrough_suffix _ _)]
      rw [byteLength_cons, byteLength_cons, ← ih, lengthThrough]
      cases findByte? (· == stop) rest with
      | none => rfl
      | some size => exact Nat.add_assoc _ _ _

theorem difference?_of_le {count taken : Nat} (fits : taken ≤ count) :
    difference? count taken = some (count - taken) := by
  rw [difference?, if_pos fits]

namespace ByteCursor

variable {input : Text} {position : Nat}

section Steps

variable {text rest piece : Text} {c : Char}

theorem peek?_of_fromByte? (stands : input.fromByte? position = some text) :
    peek? input position = some text.head? := by
  rw [peek?, stands]
  rfl

theorem bump?_cons (stands : input.fromByte? position = some (c :: rest)) :
    bump? input position = some (some c, position + c.utf8Size) := by
  rw [bump?, peek?_of_fromByte? stands]
  rfl

theorem bump?_nil (stands : input.fromByte? position = some []) :
    bump? input position = some (none, position) := by
  rw [bump?, peek?_of_fromByte? stands]
  rfl

theorem take?_append (stands : input.fromByte? position = some (piece ++ rest)) :
    take? input position piece.byteLength = some (piece, position + piece.byteLength) := by
  rw [take?, Text.slice?_append stands]
  rfl

theorem opener?_append (kind : GroupKind) (stands : input.fromByte? position = some (piece ++ rest)) :
    opener? input position kind piece.byteLength =
      some (.opener kind piece, position + piece.byteLength) := by
  rw [opener?, take?_append stands]
  rfl

theorem text?_append (stands : input.fromByte? position = some (piece ++ rest)) :
    text? input position piece.byteLength = some (.plain piece, position + piece.byteLength) := by
  rw [text?, take?_append stands]
  rfl

end Steps

/-- A reader answers `token` and the offset behind it. -/
def Answers (read : Option (Token × Nat)) (position : Nat) (token : Token) : Prop :=
  read = some (token, position + token.source.byteLength)

/-! ## Escapes, quantifiers and references -/

theorem escape?_answers {rest : Text} (stands : input.fromByte? position = some ('\\' :: rest)) :
    Answers (escape? input position) position (scanEscape rest).1 := by
  have behind := Text.fromByte?_next stands
  cases rest with
  | nil => simp [Answers, escape?, scanEscape, bump?_cons stands, bump?_nil behind, Token.source]
  | cons c rest =>
    simp [Answers, escape?, scanEscape, bump?_cons stands, bump?_cons behind, Token.source, Nat.add_assoc]

theorem brace?_answers {text : Text} (stands : input.fromByte? position = some text) :
    Answers (brace? input position) position
      (.quantifier (Text.before text (Text.dropThrough '\x7d' text))) := by
  have length : text.lengthThrough '\x7d' = _ := Text.lengthThrough_eq (by decide) text
  have taken : input.fromByte? position =
      some (Text.before text (Text.dropThrough '\x7d' text) ++ Text.dropThrough '\x7d' text) := by
    rw [Text.before_append (Text.dropThrough_suffix '\x7d' text), stands]
  simp [Answers, brace?, stands, length, take?_append taken, Token.source]

theorem reference?_answers {rest : Text} (stands : input.fromByte? position = some ('@' :: rest)) :
    Answers (reference? input position) position (scanReference rest).1 := by
  have mark : ('@' : Char).utf8Size = 1 := by decide
  have behind : input.fromByte? (position + 1) = some rest := Text.fromByte?_next stands
  have left : difference? input.byteLength (position + 1) = some rest.byteLength := by
    have total := Text.add_byteLength_of_fromByte? behind
    rw [difference?_of_le (by omega)]
    congr 1
    omega
  have whole := List.takeWhile_append_dropWhile (p := isAliasChar) (l := rest)
  have size : (rest.findByte? (! isAliasChar ·)).getD rest.byteLength =
      Text.byteLength (rest.takeWhile isAliasChar) := Text.getD_findByte? isAliasChar rest
  cases name : rest.takeWhile isAliasChar with
  | nil =>
    rw [name] at size
    simp [Answers, reference?, scanReference, behind, left, size, name, bump?_cons stands, Token.source]
  | cons c tail =>
    have some_byte := c.utf8Size_pos
    rw [name] at size whole
    have spelled : input.fromByte? position = some (('@' :: c :: tail) ++ rest.dropWhile isAliasChar) := by
      rw [List.cons_append, whole, stands]
    have taken : take? input position (1 + Text.byteLength (c :: tail)) =
        some ('@' :: c :: tail, position + Text.byteLength ('@' :: c :: tail)) := by
      rw [← mark, ← Text.byteLength_cons]
      exact take?_append spelled
    have named : Text.fromByte? ('@' :: c :: tail) 1 = some (c :: tail) :=
      Text.fromByte?_append ['@'] (c :: tail)
    have there : Text.byteLength (c :: tail) ≠ 0 := by
      rw [Text.byteLength_cons]
      omega
    simp only [Answers, reference?, scanReference, behind, left, size, name, Option.bind_eq_bind, Option.bind_some]
    rw [if_neg there, taken]
    simp [named, Token.source]

/-! ## Openers -/

theorem byteLength_special (text : Text) : Text.byteLength ('(' :: '?' :: text) = 2 + text.byteLength := by
  have first : ('(' : Char).utf8Size = 1 := by decide
  have second : ('?' : Char).utf8Size = 1 := by decide
  rw [Text.byteLength_cons, Text.byteLength_cons, first, second, ← Nat.add_assoc]

theorem byteLength_special_through {stop : Char} (oneByte : stop.utf8Size = 1) (text : Text) :
    Text.byteLength ('(' :: '?' :: (text ++ [stop])) = 2 + text.byteLength + 1 := by
  rw [byteLength_special, Text.byteLength_append, Text.byteLength_cons, Text.byteLength_nil, oneByte,
    Nat.add_zero, Nat.add_assoc]

section Openers

variable {isName : Char → Bool}

/-- A name is what goes before the first `stop`, if there is some and all of it may stand in a name. -/
theorem nameOpener?_eq {stop : Char} (stops : isName stop = false) (spelling text : Text) :
    nameOpener? isName spelling stop text =
      match text.dropWhile (! · == stop) with
      | [] => none
      | _ :: _ =>
        let name := text.takeWhile (! · == stop)
        if name ≠ [] ∧ name.all isName then some (specialOpener (.named name) (spelling ++ name ++ [stop]))
        else none := by
  have other (c : Char) (named : isName c = true) : (! c == stop) = true := by
    rw [Bool.not_eq_true', beq_eq_false_iff_ne]
    rintro rfl
    rw [named] at stops
    exact absurd stops (by decide)
  have whole := List.takeWhile_append_dropWhile (p := isName) (l := text)
  have all : ∀ c ∈ text.takeWhile isName, isName c = true := fun c member => List.mem_takeWhile_imp member
  unfold nameOpener?
  generalize text.takeWhile isName = name at whole all ⊢
  cases after : text.dropWhile isName with
  | nil =>
    rw [after, List.append_nil] at whole
    subst whole
    have none_left : name.dropWhile (! · == stop) = [] :=
      List.dropWhile_eq_nil_iff.mpr fun c member => other c (all c member)
    rw [none_left]
    simp
  | cons c rest =>
    have ends : isName c = false := by
      have head := List.head?_dropWhile_not isName text
      rw [after] at head
      simpa using head
    rw [after] at whole
    subst whole
    rw [List.dropWhile_append_of_pos fun c member => other c (all c member),
      List.takeWhile_append_of_pos fun c member => other c (all c member)]
    by_cases same : c = stop
    · subst same
      have named : name.all isName = true := List.all_eq_true.mpr all
      simp [named]
    · have goesOn : (! c == stop) = true := by simpa using same
      simp only [List.head?_cons, Option.some.injEq, same, and_false, if_false, List.dropWhile_cons, goesOn, if_true,
        List.takeWhile_cons, ends, List.all_append, List.all_cons, Bool.false_and, Bool.and_false, Bool.false_eq_true]
      split <;> rfl

/-- One spelling of a name after another. -/
theorem named?_cons {after spelling : Text} {stop : Char} (stops : isName stop = false)
    (oneByte : stop.utf8Size = 1) (others : List (Text × Char))
    (stands : input.fromByte? position = some ('(' :: '?' :: after)) :
    named? input position isName after ((spelling, stop) :: others) =
      match (stripped? spelling after).bind (nameOpener? isName spelling stop) with
      | none => named? input position isName after others
      | some token => some (some (token, position + token.source.byteLength)) := by
  rw [named?]
  cases stripped : stripped? spelling after with
  | none => rfl
  | some text =>
    obtain rfl := eq_append_of_stripped? stripped
    rw [Option.bind_some, nameOpener?_eq stops]
    dsimp only
    rw [Text.findByte?_eq]
    have whole := List.takeWhile_append_dropWhile (p := (! · == stop)) (l := text)
    generalize text.takeWhile (! · == stop) = name at whole ⊢
    cases behind : text.dropWhile (! · == stop) with
    | nil => rfl
    | cons c rest =>
      obtain rfl : c = stop := by
        have head := List.head?_dropWhile_not (! · == stop) text
        rw [behind] at head
        simpa using head
      rw [behind] at whole
      subst whole
      have opened : input.fromByte? position = some (('(' :: '?' :: (spelling ++ name ++ [c])) ++ rest) := by
        rw [stands]
        simp
      have size : 2 + spelling.byteLength + Text.byteLength name + 1 =
          Text.byteLength ('(' :: '?' :: (spelling ++ name ++ [c])) := by
        rw [byteLength_special_through oneByte, Text.byteLength_append, Nat.add_assoc 2]
      rw [if_neg (by simp)]
      dsimp only
      rw [Text.slice?_front, Option.bind_eq_bind, Option.bind_some, size, opener?_append _ opened]
      split <;> rfl

/-- The first of the spellings in which a named group stands is found. -/
theorem named?_eq {after : Text} (stands : input.fromByte? position = some ('(' :: '?' :: after))
    (spellings : List (Text × Char))
    (ends : ∀ entry ∈ spellings, isName entry.2 = false ∧ entry.2.utf8Size = 1) :
    named? input position isName after spellings =
      some ((spellings.findSome? fun (spelling, stop) =>
          (stripped? spelling after).bind (nameOpener? isName spelling stop)).map fun token =>
        (token, position + token.source.byteLength)) := by
  induction spellings with
  | nil => rfl
  | cons entry others ih =>
    obtain ⟨⟨stops, oneByte⟩, later⟩ := List.forall_mem_cons.mp ends
    rw [named?_cons stops oneByte others stands, List.findSome?_cons, ih later]
    dsimp only
    cases (stripped? entry.1 after).bind (nameOpener? isName entry.1 entry.2) <;> rfl

/-- A flag setting, or the first two characters of an unknown construct. -/
theorem flags?_answers {after : Text} (stands : input.fromByte? position = some ('(' :: '?' :: after)) :
    Answers (flags? input position after) position (flagToken after) := by
  have whole := List.takeWhile_append_dropWhile (p := isFlagChar) (l := after)
  have size : (after.findByte? (! isFlagChar ·)).getD after.byteLength =
      Text.byteLength (after.takeWhile isFlagChar) := Text.getD_findByte? isFlagChar after
  have unknown : opener? input position .other 2 =
      some (specialOpener .other [], position + (specialOpener .other []).source.byteLength) := by
    have opened : input.fromByte? position = some (['(', '?'] ++ after) := stands
    exact opener?_append .other opened
  simp only [Answers, flags?, size]
  unfold flagToken
  generalize after.takeWhile isFlagChar = letters at whole ⊢
  generalize after.dropWhile isFlagChar = behind at whole ⊢
  subst whole
  rcases letters with _ | ⟨letter, letters⟩
  · rw [Text.byteLength_nil, if_neg (Nat.lt_irrefl 0), unknown]
    simp
  have some_byte := letter.utf8Size_pos
  rw [if_pos (by rw [Text.byteLength_cons]; omega), Text.fromByte?_append, Option.bind_eq_bind,
    Option.bind_some]
  rcases behind with _ | ⟨stop, behind⟩
  · simp [unknown]
  -- the setting through the character that ends it
  have through : input.fromByte? position = some (('(' :: '?' :: (letter :: letters ++ [stop])) ++ behind) := by
    rw [stands]
    simp
  have length (oneByte : stop.utf8Size = 1) : 2 + Text.byteLength (letter :: letters) + 1 =
      Text.byteLength ('(' :: '?' :: (letter :: letters ++ [stop])) :=
    (byteLength_special_through oneByte _).symm
  by_cases closer : stop = ')'
  · subst closer
    simp only [List.head?_cons, length (by decide), text?_append through]
    simp [Token.source]
  by_cases colon : stop = ':'
  · subst colon
    simp only [List.head?_cons, length (by decide), opener?_append _ through, Text.slice?_front,
      Option.bind_some]
    simp [specialOpener, Token.source]
  · simp [closer, colon, unknown]

/-- A comment is as long as the text through its closing parenthesis. -/
theorem comment?_answers {rest : Text} (stands : input.fromByte? position = some ('(' :: '?' :: '#' :: rest)) :
    Answers (text? input position (Text.lengthThrough ')' ('(' :: '?' :: '#' :: rest))) position
      (commentToken ('#' :: rest)) := by
  have suffix := Text.dropThrough_suffix ')' ('#' :: rest)
  have spelled : Text.before ('(' :: '?' :: '#' :: rest) (Text.dropThrough ')' ('#' :: rest)) =
      '(' :: '?' :: Text.before ('#' :: rest) (Text.dropThrough ')' ('#' :: rest)) := by
    rw [Text.before_cons _ (suffix.trans (List.suffix_cons _ _)), Text.before_cons _ suffix]
  have length : Text.lengthThrough ')' ('(' :: '?' :: '#' :: rest) =
      Text.byteLength (scanComment ('#' :: rest)).1.source := by
    rw [Text.lengthThrough_eq (by decide), scanComment, Token.source, ← spelled]
    rfl
  have taken : input.fromByte? position =
      some ((scanComment ('#' :: rest)).1.source ++ (scanComment ('#' :: rest)).2) := by
    rw [scanComment_source, stands]
  rw [Answers, ← scanComment_eq_commentToken, length, text?_append taken]
  rfl

/-- The reader that searches for the ends of names and flags finds what the rule decides on. -/
theorem group?_answers {rest : Text} (angle : isName '>' = false) (quote : isName '\x27' = false)
    (stands : input.fromByte? position = some ('(' :: rest)) :
    Answers (group? input position isName) position (openerToken isName rest) := by
  rw [group?, stands, Option.bind_eq_bind, Option.bind_some, openerToken]
  cases special : stripped? ['?'] rest with
  | none =>
    have stripped : stripped? ['(', '?'] ('(' :: rest) = none := by
      apply stripped?_eq_none
      intro after same
      obtain rfl := (List.cons.inj same).2
      cases special
    rw [stripped]
    simp [Answers, bump?_cons stands, Token.source]
  | some after =>
    obtain rfl := eq_append_of_stripped? special
    change input.fromByte? position = some ('(' :: '?' :: after) at stands
    have stripped : stripped? ['(', '?'] ('(' :: (['?'] ++ after)) = some after := stripped?_append ['(', '?'] after
    rw [stripped]
    dsimp only [List.singleton_append]
    cases fixed : fixedOpeners.find? (fun entry => entry.1.isPrefixOf ('(' :: '?' :: after)) with
    | some entry =>
      have starts := List.find?_some fixed
      obtain ⟨tail, whole⟩ := List.isPrefixOf_iff_prefix.mp starts
      rw [← whole] at stands
      exact opener?_append entry.2 stands
    | none =>
      dsimp only
      by_cases comment : after.head? = some '#'
      · obtain ⟨text, rfl⟩ := List.head?_eq_some_iff.mp comment
        exact comment?_answers stands
      · have ends : ∀ entry ∈ nameSpellings, isName entry.2 = false ∧ entry.2.utf8Size = 1 := by
          simp only [nameSpellings, List.forall_mem_cons, List.not_mem_nil, false_implies, implies_true, and_true]
          exact ⟨⟨angle, by decide⟩, ⟨angle, by decide⟩, quote, by decide⟩
        rw [if_neg comment, if_neg comment, named?_eq stands nameSpellings ends, ← namedOpener?]
        cases named : namedOpener? isName after with
        | none => exact flags?_answers stands
        | some token => rfl

end Openers

/-! ## Classes -/

namespace ClassLoop

/-- A loop inside `outer` and one more classes, with `text` before it. It is never between a backslash and
the character behind it, nor before a caret that negates. -/
structure At (input : Text) (loop : ClassLoop) (outer : Nat) (place : ClassPlace) (text : Text) : Prop where
  stands : input.fromByte? loop.position = some text
  depth : loop.depth = outer + 1
  member : place = .inside ∧ loop.first < loop.position ∨
    (place = .negated ∨ place = .opened ∧ text.head? ≠ some '^') ∧ loop.first = loop.position

/-- One round goes on before a shorter text, of which the same is left, or ends before what is left. -/
def Goes (input : Text) (loop : ClassLoop) (size : Nat) (left : Text) : Prop :=
  (∃ next outer place text, loop.step? input = some (.inl next) ∧ next.At input outer place text ∧
    text.length < size ∧ dropClassFrom outer place text = left) ∨
  ∃ stop, loop.step? input = some (.inr stop) ∧ input.fromByte? stop = some left

variable {loop : ClassLoop} {outer : Nat} {place : ClassPlace} {c : Char} {text rest : Text}

namespace At

theorem unescaped (here : loop.At input outer place text) : place ≠ .escaped := by
  rcases here.member with ⟨rfl, -⟩ | ⟨rfl | ⟨rfl, -⟩, -⟩ <;> simp

/-- Behind a further character the next one is not the first member. -/
theorem further (here : loop.At input outer place text) {position : Nat}
    (stands : input.fromByte? position = some rest) (later : loop.position < position) :
    ClassLoop.At input { loop with position } outer .inside rest := by
  refine ⟨stands, here.depth, .inl ⟨rfl, ?_⟩⟩
  rcases here.member with ⟨-, before⟩ | ⟨-, same⟩
  · exact Nat.lt_trans before later
  · exact same ▸ later

theorem goes_escape (here : loop.At input outer place ('\\' :: rest)) :
    loop.Goes input ('\\' :: rest).length (dropClassFrom outer place ('\\' :: rest)) := by
  have unescaped := here.unescaped
  have behind := Text.fromByte?_next here.stands
  have some_byte := ('\\' : Char).utf8Size_pos
  left
  rcases rest with _ | ⟨c, rest⟩
  · refine ⟨_, outer, .inside, [], ?_, here.further behind (by omega), by simp, ?_⟩
    · simp [step?, bump?_cons here.stands, bump?_nil behind]
    · simp [dropClassFrom, unescaped]
  · refine ⟨_, outer, .inside, rest, ?_, here.further (Text.fromByte?_next behind) (by omega), ?_, ?_⟩
    · simp [step?, bump?_cons here.stands, bump?_cons behind]
    · simp only [List.length_cons]
      omega
    · simp [dropClassFrom, unescaped]

end At

/-- A bracket opens a class, whether or not the loop is in one, and the loop comes to its first member. -/
theorem goes_opened (stands : input.fromByte? loop.position = some ('[' :: rest)) :
    loop.Goes input ('[' :: rest).length (dropClassFrom loop.depth .opened rest) := by
  have behind := Text.fromByte?_next stands
  have peeked := peek?_of_fromByte? behind
  left
  by_cases negates : rest.head? = some '^'
  · obtain ⟨text, rfl⟩ := List.head?_eq_some_iff.mp negates
    have within := Text.fromByte?_next behind
    refine ⟨⟨_, loop.depth + 1, _⟩, loop.depth, .negated, text, ?_, ⟨within, rfl, .inr ⟨.inl rfl, rfl⟩⟩, ?_, ?_⟩
    · simp [step?, bump?_cons stands, pastCaret?, peeked, bump?_cons behind]
    · simp only [List.length_cons]
      omega
    · simp [dropClassFrom]
  · refine ⟨⟨_, loop.depth + 1, _⟩, loop.depth, .opened, rest, ?_,
      ⟨behind, rfl, .inr ⟨.inr ⟨rfl, negates⟩, rfl⟩⟩, by simp, rfl⟩
    simp [step?, bump?_cons stands, pastCaret?, peeked, negates]

namespace At

/-- A closing bracket is the first member or closes a class, and there is one to close. -/
theorem goes_closing (here : loop.At input outer place (']' :: rest)) :
    loop.Goes input (']' :: rest).length (dropClassFrom outer place (']' :: rest)) := by
  have unescaped := here.unescaped
  have behind := Text.fromByte?_next here.stands
  have size : (']' : Char).utf8Size = 1 := by decide
  have back : difference? (loop.position + (']' : Char).utf8Size) 1 = some loop.position := by
    rw [difference?_of_le (by omega), size, Nat.add_sub_cancel]
  have less : difference? loop.depth 1 = some outer := by
    rw [here.depth, difference?_of_le (by omega), Nat.add_sub_cancel]
  rcases here.member with ⟨rfl, before⟩ | ⟨first, same⟩
  · have other : loop.position ≠ loop.first := Nat.ne_of_gt before
    cases outer with
    | zero =>
      refine .inr ⟨loop.position + (']' : Char).utf8Size, ?_, ?_⟩
      · simp [step?, bump?_cons here.stands, back, other, less]
      · simpa [dropClassFrom] using behind
    | succ outer =>
      refine .inl ⟨⟨_, outer + 1, loop.first⟩, outer, .inside, rest, ?_, ⟨behind, rfl, ?_⟩, by simp, ?_⟩
      · simp [step?, bump?_cons here.stands, back, other, less]
      · exact .inl ⟨rfl, Nat.lt_add_right _ before⟩
      · simp [dropClassFrom]
  · have member : place ≠ .inside := by
      rcases first with rfl | ⟨rfl, -⟩ <;> simp
    refine .inl ⟨_, outer, .inside, rest, ?_, here.further behind (by omega), by simp, ?_⟩
    · simp [step?, bump?_cons here.stands, back, same]
    · simp [dropClassFrom, unescaped, member]

theorem goes_member (here : loop.At input outer place (c :: rest)) (backslash : c ≠ '\\')
    (bracket : c ≠ '[') (closing : c ≠ ']') :
    loop.Goes input (c :: rest).length (dropClassFrom outer place (c :: rest)) := by
  have unescaped := here.unescaped
  have some_byte := c.utf8Size_pos
  have member : ¬ (c = '^' ∧ place = .opened) := by
    rintro ⟨rfl, rfl⟩
    rcases here.member with ⟨inside, -⟩ | ⟨negated | ⟨-, other⟩, -⟩
    · exact absurd inside (by simp)
    · exact absurd negated (by simp)
    · exact other rfl
  refine .inl ⟨_, outer, .inside, rest, ?_, here.further (Text.fromByte?_next here.stands) (by omega),
    by simp, ?_⟩
  · simp [step?, bump?_cons here.stands]
  · simp [dropClassFrom, unescaped, backslash, bracket, closing, member]

/-- One round through a class takes what `dropClassFrom` takes, and no count goes below zero. -/
theorem goes (here : loop.At input outer place (c :: rest)) :
    loop.Goes input (c :: rest).length (dropClassFrom outer place (c :: rest)) := by
  by_cases backslash : c = '\\'
  · subst backslash
    exact here.goes_escape
  by_cases bracket : c = '['
  · subst bracket
    have unescaped := here.unescaped
    have nested : dropClassFrom outer place ('[' :: rest) = dropClassFrom loop.depth .opened rest := by
      simp [dropClassFrom, unescaped, here.depth]
    rw [nested]
    exact goes_opened here.stands
  by_cases closing : c = ']'
  · subst closing
    exact here.goes_closing
  · exact here.goes_member backslash bracket closing

end At

/-- A run through a class ends behind it: every round goes on before less text, or ends there. -/
theorem At.runs (text : Text) : ∀ {loop : ClassLoop} {outer : Nat} {place : ClassPlace},
    loop.At input outer place text →
      ∃ stop, loop.run? input = some stop ∧ input.fromByte? stop = some (dropClassFrom outer place text) := by
  induction length : text.length using Nat.strongRecOn generalizing text with
  | ind size ih =>
    intro loop outer place here
    rcases text with _ | ⟨c, rest⟩
    · exact ⟨_, run?_of_done (step?_at_end (peek?_of_fromByte? here.stands)), here.stands⟩
    · rcases here.goes with ⟨next, outer', place', text, went, there, shorter, same⟩ | ⟨stop, went, stands⟩
      · obtain ⟨stop, ran, stands⟩ := ih text.length (length ▸ shorter) text rfl there
        exact ⟨stop, (run?_of_more went).trans ran, same ▸ stands⟩
      · exact ⟨stop, run?_of_done went, stands⟩

end ClassLoop

/-- A class is passed as a whole. -/
theorem classEnd?_stands {rest : Text} (stands : input.fromByte? position = some ('[' :: rest)) :
    ∃ stop, classEnd? input position = some stop ∧ input.fromByte? stop = some (dropClass rest) := by
  have opened : ClassLoop.Goes input ⟨position, 0, position⟩ ('[' :: rest).length (dropClass rest) :=
    ClassLoop.goes_opened stands
  rcases opened with ⟨next, outer, place, text, went, there, -, same⟩ | ⟨stop, went, behind⟩
  · obtain ⟨stop, ran, behind⟩ := there.runs
    exact ⟨stop, (ClassLoop.run?_of_more went).trans ran, behind.trans (congrArg some same)⟩
  · exact ⟨stop, ClassLoop.run?_of_done went, behind⟩

/-! ## Plain text -/

theorem plainEnd?_of_more {next : Nat} (went : plainStep? input position = some (.inl next)) :
    plainEnd? input position = plainEnd? input next := by
  rw [plainEnd?]
  split <;> simp_all

theorem plainEnd?_of_done {stop : Nat} (went : plainStep? input position = some (.inr stop)) :
    plainEnd? input position = some stop := by
  rw [plainEnd?]
  split <;> simp_all

/-- A run through plain text ends behind it. -/
theorem plainEnd?_stands (text : Text) : ∀ {position : Nat}, input.fromByte? position = some text →
    ∃ stop, plainEnd? input position = some stop ∧ input.fromByte? stop = some (dropPlainText text) := by
  fun_induction dropPlainText text with
  | case1 =>
    intro position stands
    refine ⟨position, plainEnd?_of_done ?_, stands⟩
    simp [plainStep?, peek?_of_fromByte? stands]
  | case2 c rest ends =>
    intro position stands
    refine ⟨position, plainEnd?_of_done ?_, stands⟩
    simp [plainStep?, peek?_of_fromByte? stands, ends]
  | case3 rest goesOn ih =>
    intro position stands
    obtain ⟨next, passed, behind⟩ := classEnd?_stands stands
    obtain ⟨stop, ended, left⟩ := ih behind
    refine ⟨stop, (plainEnd?_of_more ?_).trans ended, left⟩
    simp [plainStep?, peek?_of_fromByte? stands, goesOn, passed]
  | case4 c rest goesOn bracket ih =>
    intro position stands
    obtain ⟨stop, ended, left⟩ := ih (Text.fromByte?_next stands)
    refine ⟨stop, (plainEnd?_of_more ?_).trans ended, left⟩
    simp [plainStep?, peek?_of_fromByte? stands, goesOn, bracket, bump?_cons stands]

theorem plainEnd?_eq {text : Text} (stands : input.fromByte? position = some text) :
    plainEnd? input position = some (position + Text.byteLength (Text.before text (dropPlainText text))) := by
  obtain ⟨stop, ended, left⟩ := plainEnd?_stands text stands
  have whole := Text.before_append (dropPlainText_suffix text)
  -- both offsets count from the end of the input what is left there
  have total := Text.add_byteLength_of_fromByte? stands
  have total' := Text.add_byteLength_of_fromByte? left
  rw [← whole, Text.byteLength_append] at total
  rw [ended]
  exact congrArg some (by omega)

theorem plain?_answers {text : Text} (stands : input.fromByte? position = some text) :
    Answers (plain? input position) position (.plain (Text.before text (dropPlainText text))) := by
  have ended := plainEnd?_eq stands
  rw [← Text.before_append (dropPlainText_suffix text)] at stands
  simp [Answers, plain?, ended, Text.slice?_append stands, Token.source]

/-! ## One token -/

theorem tokenBy?_answers {afterClose : Bool} {text : Text} (stands : input.fromByte? position = some text)
    (other : text.head? ≠ some ')') :
    Answers (tokenBy? isNameChar input afterClose position) position (scan afterClose text).1 := by
  have peeked := peek?_of_fromByte? stands
  rw [tokenBy?, peeked, Option.bind_eq_bind, Option.bind_some]
  rcases text with _ | ⟨c, rest⟩
  · rfl
  have unclosed : c ≠ ')' := fun same => other (congrArg some same)
  rw [scan]
  dsimp only [List.head?_cons]
  rw [if_neg unclosed]
  split_ifs with backslash opening quantifier brace reference
  · subst backslash
    exact escape?_answers stands
  · subst opening
    rw [scanOpener_eq_openerToken]
    exact group?_answers (by decide) (by decide) stands
  · simp [Answers, bump?_cons stands, Token.source]
  · exact brace?_answers stands
  · subst reference
    exact reference?_answers stands
  · exact plain?_answers stands

end ByteCursor

end GroupUnroll
