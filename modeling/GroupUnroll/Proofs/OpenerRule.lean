import GroupUnroll.Pattern.ByteCursor
import GroupUnroll.Proofs.Grammar
import Mathlib.Data.List.TakeWhile

/-! # Openers by a local rule

What an opening parenthesis starts is decided by the characters up to the one that ends it: a fixed spelling, a name
or a flag setting as long as it can be, and the character behind. `openerToken` is this rule, for any set of
characters that may stand in a name. `scan` follows it, and an opener is read again from its own text.
-/

namespace GroupUnroll

theorem stripped?_append (spelling text : Text) : stripped? spelling (spelling ++ text) = some text := by
  rw [stripped?, if_pos (by simp), List.drop_left]

theorem eq_append_of_stripped? {spelling text rest : Text} (stripped : stripped? spelling text = some rest) :
    text = spelling ++ rest := by
  unfold stripped? at stripped
  split at stripped
  · rename_i starts
    obtain ⟨tail, rfl⟩ := List.isPrefixOf_iff_prefix.mp starts
    rw [List.drop_left] at stripped
    rw [Option.some.inj stripped]
  · exact absurd stripped (by simp)

theorem stripped?_eq_none {spelling text : Text} (other : ∀ rest, text ≠ spelling ++ rest) :
    stripped? spelling text = none := by
  cases stripped : stripped? spelling text with
  | none => rfl
  | some rest => exact absurd (eq_append_of_stripped? stripped) (other rest)

/-! ## The rule -/

open ByteCursor (fixedOpeners nameSpellings)

/-- The opener of the group whose name starts a text: the longest one, if the next character ends it. -/
def nameOpener? (isName : Char → Bool) (spelling : Text) (stop : Char) (text : Text) : Option Token :=
  if text.takeWhile isName ≠ [] ∧ (text.dropWhile isName).head? = some stop then
    some (specialOpener (.named (text.takeWhile isName)) (spelling ++ text.takeWhile isName ++ [stop]))
  else none

/-- The opener of a named group for the text after `(?`, in one of the spellings. -/
def namedOpener? (isName : Char → Bool) (after : Text) : Option Token :=
  nameSpellings.findSome? fun (spelling, stop) => (stripped? spelling after).bind (nameOpener? isName spelling stop)

/-- The flag setting for the text after `(?`: the longest one, if a closing parenthesis or a colon ends it. -/
def flagToken (after : Text) : Token :=
  let letters := after.takeWhile isFlagChar
  let next := (after.dropWhile isFlagChar).head?
  if letters ≠ [] ∧ next = some ')' then .plain ('(' :: '?' :: (letters ++ [')']))
  else if letters ≠ [] ∧ next = some ':' then specialOpener (.flags letters) (letters ++ [':'])
  else specialOpener .other []

/-- The comment for the text after `(?`, up to its first closing parenthesis. -/
def commentToken (after : Text) : Token :=
  .plain ('(' :: '?' :: (after.takeWhile (· ≠ ')') ++ (after.dropWhile (· ≠ ')')).take 1))

/-- The token that an opening parenthesis starts, told from the text behind it. -/
def openerToken (isName : Char → Bool) (rest : Text) : Token :=
  match stripped? ['?'] rest with
  | none => .opener .capturing ['(']
  | some after =>
    match fixedOpeners.find? fun entry => entry.1.isPrefixOf ('(' :: '?' :: after) with
    | some (opening, kind) => .opener kind opening
    | none =>
      if after.head? = some '#' then commentToken after
      else (namedOpener? isName after).getD (flagToken after)

/-! ## Scanned openers -/

theorem scanOpener_of_fixed {rest opening : Text} {kind : GroupKind}
    (found : fixedOpeners.find? (fun entry => entry.1.isPrefixOf ('(' :: rest)) = some (opening, kind)) :
    ∃ tail, '(' :: rest = opening ++ tail ∧ scanOpener rest = (.opener kind opening, tail) := by
  have member := List.mem_of_find?_eq_some found
  have starts := List.find?_some found
  obtain ⟨tail, whole⟩ := List.isPrefixOf_iff_prefix.mp starts
  refine ⟨tail, whole.symm, ?_⟩
  simp only [fixedOpeners, List.mem_cons, Prod.mk.injEq, List.not_mem_nil, or_false] at member
  rcases member with ⟨rfl, rfl⟩ | ⟨rfl, rfl⟩ | ⟨rfl, rfl⟩ | ⟨rfl, rfl⟩ | ⟨rfl, rfl⟩ | ⟨rfl, rfl⟩ <;>
    (obtain rfl := (List.cons.inj whole).2; rfl)

/-- What is no fixed spelling and no comment is a name, a flag setting or unknown. -/
theorem scanSpecial_of_unfixed {after : Text}
    (unfixed : fixedOpeners.find? (fun entry => entry.1.isPrefixOf ('(' :: '?' :: after)) = none)
    (uncommented : after.head? ≠ some '#') :
    scanSpecial after = (scanNamed? after).getD (scanFlags after) := by
  simp only [fixedOpeners, List.find?_eq_none, List.mem_cons, List.not_mem_nil, or_false, forall_eq_or_imp,
    forall_eq, List.isPrefixOf_cons_cons, beq_self_eq_true, Bool.true_and] at unfixed
  unfold scanSpecial
  split
  all_goals first | rfl | exact absurd rfl uncommented | exact absurd unfixed (by simp)

theorem scanName?_eq_nameOpener? (spelling : Text) (stop : Char) (text : Text) :
    (scanName? spelling stop text).map Prod.fst = nameOpener? isNameChar spelling stop text := by
  unfold scanName? nameOpener?
  cases text.dropWhile isNameChar with
  | nil => simp
  | cons c rest =>
    simp only [List.head?_cons, Option.some.injEq]
    split_ifs <;> rfl

section Spellings

variable (isName : Char → Bool) (text : Text)

theorem namedOpener?_angle : namedOpener? isName ('<' :: text) = nameOpener? isName ['<'] '>' text := by
  cases found : nameOpener? isName ['<'] '>' text <;> simp [namedOpener?, nameSpellings, stripped?, found]

theorem namedOpener?_letter : namedOpener? isName ('P' :: '<' :: text) = nameOpener? isName ['P', '<'] '>' text := by
  cases found : nameOpener? isName ['P', '<'] '>' text <;> simp [namedOpener?, nameSpellings, stripped?, found]

theorem namedOpener?_quote : namedOpener? isName ('\x27' :: text) = nameOpener? isName ['\x27'] '\x27' text := by
  cases found : nameOpener? isName ['\x27'] '\x27' text <;> simp [namedOpener?, nameSpellings, stripped?, found]

variable {isName text}

/-- A text that starts with none of the spellings opens no named group. -/
theorem namedOpener?_eq_none (angle : ∀ rest, text ≠ '<' :: rest) (letter : ∀ rest, text ≠ 'P' :: '<' :: rest)
    (quote : ∀ rest, text ≠ '\x27' :: rest) : namedOpener? isName text = none := by
  have angled : stripped? ['<'] text = none := stripped?_eq_none angle
  have lettered : stripped? ['P', '<'] text = none := stripped?_eq_none letter
  have quoted : stripped? ['\x27'] text = none := stripped?_eq_none quote
  simp [namedOpener?, nameSpellings, angled, lettered, quoted]

end Spellings

theorem scanNamed?_eq_namedOpener? (after : Text) :
    (scanNamed? after).map Prod.fst = namedOpener? isNameChar after := by
  unfold scanNamed?
  split
  · rw [scanName?_eq_nameOpener?, namedOpener?_angle]
  · rw [scanName?_eq_nameOpener?, namedOpener?_letter]
  · rw [scanName?_eq_nameOpener?, namedOpener?_quote]
  · rename_i angle letter quote
    rw [namedOpener?_eq_none angle letter quote]
    rfl

theorem scanFlags_eq_flagToken (after : Text) : (scanFlags after).1 = flagToken after := by
  unfold scanFlags flagToken
  cases after.dropWhile isFlagChar with
  | nil => simp
  | cons c rest =>
    simp only [List.head?_cons, Option.some.injEq]
    split_ifs <;> rfl

theorem Text.before_dropThrough (stop : Char) (text : Text) :
    before text (dropThrough stop text) = text.takeWhile (· ≠ stop) ++ (text.dropWhile (· ≠ stop)).take 1 := by
  induction text with
  | nil => rfl
  | cons c rest ih =>
    rw [dropThrough]
    split_ifs with here
    · subst here
      rw [before_cons _ (List.suffix_refl _), before_self]
      simp
    · rw [before_cons _ (dropThrough_suffix _ _), ih]
      simp [here]

theorem scanComment_eq_commentToken (after : Text) : (scanComment after).1 = commentToken after := by
  rw [commentToken, ← Text.before_dropThrough]
  rfl

/-- A text that an opening parenthesis stands before is scanned by the rule. -/
theorem scanOpener_eq_openerToken (rest : Text) : (scanOpener rest).1 = openerToken isNameChar rest := by
  unfold openerToken
  cases special : stripped? ['?'] rest with
  | none =>
    rw [scanOpener]
    rintro after rfl
    rw [show '?' :: after = ['?'] ++ after from rfl, stripped?_append] at special
    cases special
  | some after =>
    obtain rfl := eq_append_of_stripped? special
    dsimp only
    cases fixed : fixedOpeners.find? (fun entry => entry.1.isPrefixOf ('(' :: '?' :: after)) with
    | some entry =>
      obtain ⟨tail, -, read⟩ := scanOpener_of_fixed fixed
      exact congrArg Prod.fst read
    | none =>
      change (scanSpecial after).1 = _
      dsimp only
      split_ifs with comment
      · obtain ⟨text, rfl⟩ := List.head?_eq_some_iff.mp comment
        exact scanComment_eq_commentToken _
      · rw [scanSpecial_of_unfixed fixed comment, ← scanNamed?_eq_namedOpener?, ← scanFlags_eq_flagToken]
        cases scanNamed? after <;> rfl

/-! ## Openers on their own -/

section Alone

variable {isName : Char → Bool} {spelling text more name flags after rest opening : Text} {stop : Char} {token : Token}
  {kind : GroupKind}

/-- A name that its end stands behind opens a group, whatever comes then. -/
theorem nameOpener?_append (stops : isName stop = false) (some_name : name ≠ [])
    (letters : ∀ c ∈ name, isName c = true) :
    nameOpener? isName spelling stop (name ++ stop :: more) =
      some (specialOpener (.named name) (spelling ++ name ++ [stop])) := by
  have taken : name.takeWhile isName = name := List.takeWhile_eq_self_iff.mpr letters
  have dropped : name.dropWhile isName = [] := List.dropWhile_eq_nil_iff.mpr letters
  rw [nameOpener?, Text.takeWhile_append_stop stops, Text.dropWhile_append_stop stops, taken, dropped,
    if_pos ⟨some_name, rfl⟩]

theorem exists_run_of_head? {keep : Char → Bool} (ended : (text.dropWhile keep).head? = some stop) :
    ∃ more, text = text.takeWhile keep ++ stop :: more := by
  obtain ⟨more, behind⟩ := List.head?_eq_some_iff.mp ended
  exact ⟨more, behind ▸ List.takeWhile_append_dropWhile.symm⟩

theorem eq_append_of_nameOpener? (opens : nameOpener? isName spelling stop text = some token) :
    ∃ name more, name ≠ [] ∧ (∀ c ∈ name, isName c = true) ∧ text = name ++ stop :: more ∧
      token = specialOpener (.named name) (spelling ++ name ++ [stop]) := by
  unfold nameOpener? at opens
  split_ifs at opens with named
  obtain ⟨more, whole⟩ := exists_run_of_head? named.2
  exact ⟨_, more, named.1, fun c => List.mem_takeWhile_imp, whole, (Option.some.inj opens).symm⟩

/-- A named opener is spelled in one of three ways. -/
theorem eq_append_of_namedOpener? (opens : namedOpener? isName after = some token) :
    ∃ spelling stop text, (spelling, stop) ∈ nameSpellings ∧ after = spelling ++ text ∧
      nameOpener? isName spelling stop text = some token := by
  obtain ⟨⟨spelling, stop⟩, member, opens⟩ := List.exists_of_findSome?_eq_some opens
  obtain ⟨text, stripped, opens⟩ := Option.bind_eq_some_iff.mp opens
  exact ⟨spelling, stop, text, member, eq_append_of_stripped? stripped, opens⟩

theorem namedOpener?_spelled (member : (spelling, stop) ∈ nameSpellings) :
    namedOpener? isName (spelling ++ text) = nameOpener? isName spelling stop text := by
  simp only [nameSpellings, List.mem_cons, Prod.mk.injEq, List.not_mem_nil, or_false] at member
  rcases member with ⟨rfl, rfl⟩ | ⟨rfl, rfl⟩ | ⟨rfl, rfl⟩
  · exact namedOpener?_angle isName text
  · exact namedOpener?_letter isName text
  · exact namedOpener?_quote isName text

/-- A text that is no longer than one without a fixed spelling has none. -/
theorem unfixed_of_shorter (shorter : text <+: after)
    (unfixed : fixedOpeners.find? (fun entry => entry.1.isPrefixOf ('(' :: '?' :: after)) = none) :
    fixedOpeners.find? (fun entry => entry.1.isPrefixOf ('(' :: '?' :: text)) = none := by
  rw [List.find?_eq_none] at unfixed ⊢
  intro entry member starts
  have longer : '(' :: '?' :: text <+: '(' :: '?' :: after := by simpa using shorter
  exact unfixed entry member (List.isPrefixOf_iff_prefix.mpr ((List.isPrefixOf_iff_prefix.mp starts).trans longer))

theorem openerToken_of_unfixed
    (unfixed : fixedOpeners.find? (fun entry => entry.1.isPrefixOf ('(' :: '?' :: after)) = none)
    (uncommented : after.head? ≠ some '#') :
    openerToken isName ('?' :: after) = (namedOpener? isName after).getD (flagToken after) := by
  have stripped : stripped? ['?'] ('?' :: after) = some after := stripped?_append ['?'] after
  rw [openerToken, stripped]
  dsimp only
  rw [unfixed, if_neg uncommented]

/-- A named opener opens the same group when nothing stands behind it. -/
theorem openerToken_named (angle : isName '>' = false) (quote : isName '\x27' = false)
    (unfixed : fixedOpeners.find? (fun entry => entry.1.isPrefixOf ('(' :: '?' :: after)) = none)
    (uncommented : after.head? ≠ some '#') (opens : namedOpener? isName after = some (.opener kind opening)) :
    ∃ tail, opening = '(' :: '?' :: tail ∧ openerToken isName ('?' :: tail) = .opener kind opening := by
  obtain ⟨spelling, stop, text, member, rfl, found⟩ := eq_append_of_namedOpener? opens
  obtain ⟨name, more, some_name, letters, rfl, same⟩ := eq_append_of_nameOpener? found
  obtain ⟨rfl, rfl⟩ := Token.opener.inj same
  have stops : isName stop = false := by
    simp only [nameSpellings, List.mem_cons, Prod.mk.injEq, List.not_mem_nil, or_false] at member
    rcases member with ⟨-, rfl⟩ | ⟨-, rfl⟩ | ⟨-, rfl⟩
    · exact angle
    · exact angle
    · exact quote
  have shorter : spelling ++ name ++ [stop] <+: spelling ++ (name ++ stop :: more) := ⟨more, by simp⟩
  have some_spelling : spelling ≠ [] := by
    rintro rfl
    simp [nameSpellings] at member
  have head : (spelling ++ name ++ [stop]).head? ≠ some '#' := by
    obtain ⟨c, tail, rfl⟩ := List.exists_cons_of_ne_nil some_spelling
    exact uncommented
  refine ⟨spelling ++ name ++ [stop], rfl, ?_⟩
  rw [openerToken_of_unfixed (unfixed_of_shorter shorter unfixed) head, List.append_assoc, namedOpener?_spelled member,
    nameOpener?_append stops some_name letters]
  simp [specialOpener]

/-- Flags that a colon stands behind open a group, whatever comes then. -/
theorem flagToken_append (some_flags : flags ≠ []) (letters : ∀ c ∈ flags, isFlagChar c = true) :
    flagToken (flags ++ ':' :: more) = specialOpener (.flags flags) (flags ++ [':']) := by
  have stops : isFlagChar ':' = false := by decide
  have taken : flags.takeWhile isFlagChar = flags := List.takeWhile_eq_self_iff.mpr letters
  have dropped : flags.dropWhile isFlagChar = [] := List.dropWhile_eq_nil_iff.mpr letters
  rw [flagToken, Text.takeWhile_append_stop stops, Text.dropWhile_append_stop stops, taken, dropped]
  simp [some_flags]

/-- Flags and a colon start neither a comment nor a name. -/
theorem flags_start (some_flags : flags ≠ []) (letters : ∀ c ∈ flags, isFlagChar c = true) :
    (flags ++ [':']).head? ≠ some '#' ∧ namedOpener? isName (flags ++ [':']) = none := by
  have first (c : Char) (other : isFlagChar c = false) (rest : Text) : flags ++ [':'] ≠ c :: rest := by
    obtain ⟨flag, flags, rfl⟩ := List.exists_cons_of_ne_nil some_flags
    intro same
    obtain rfl := (List.cons.inj same).1
    rw [letters _ (List.mem_cons_self ..)] at other
    cases other
  constructor
  · intro head
    obtain ⟨rest, same⟩ := List.head?_eq_some_iff.mp head
    exact first '#' (by decide) rest same
  · apply namedOpener?_eq_none (first '<' (by decide)) _ (first '\x27' (by decide))
    -- the letter of the second spelling is a flag, but what stands behind it is none
    intro rest same
    have member : '<' ∈ flags ++ [':'] := by simp [same]
    rcases List.mem_append.mp member with flag | colon
    · cases letters _ flag
    · simp at colon

/-- An opener with flags opens the same group when nothing stands behind it. -/
theorem openerToken_flags
    (unfixed : fixedOpeners.find? (fun entry => entry.1.isPrefixOf ('(' :: '?' :: after)) = none)
    (opens : flagToken after = .opener kind opening) :
    ∃ tail, opening = '(' :: '?' :: tail ∧ openerToken isName ('?' :: tail) = .opener kind opening := by
  unfold flagToken at opens
  dsimp only at opens
  split_ifs at opens with closed colon
  · obtain ⟨rfl, rfl⟩ := Token.opener.inj opens
    obtain ⟨more, whole⟩ := exists_run_of_head? colon.2
    have letters : ∀ c ∈ after.takeWhile isFlagChar, isFlagChar c = true := fun c => List.mem_takeWhile_imp
    have some_flags := colon.1
    generalize after.takeWhile isFlagChar = flags at whole letters some_flags ⊢
    subst whole
    have shorter : flags ++ [':'] <+: flags ++ ':' :: more := ⟨more, by simp⟩
    obtain ⟨uncommented, unnamed⟩ := flags_start some_flags letters
    refine ⟨flags ++ [':'], rfl, ?_⟩
    rw [openerToken_of_unfixed (unfixed_of_shorter shorter unfixed) uncommented, unnamed, Option.getD_none,
      flagToken_append some_flags letters]
    rfl
  · obtain ⟨rfl, rfl⟩ := Token.opener.inj opens
    exact ⟨[], rfl, rfl⟩

/-- An opener that the rule decides on is what it decides on for the text of the opener alone. -/
theorem openerToken_opening (angle : isName '>' = false) (quote : isName '\x27' = false)
    (opens : openerToken isName rest = .opener kind opening) :
    ∃ tail, opening = '(' :: tail ∧ openerToken isName tail = .opener kind opening := by
  unfold openerToken at opens
  cases special : stripped? ['?'] rest with
  | none =>
    rw [special] at opens
    obtain ⟨rfl, rfl⟩ := Token.opener.inj opens
    exact ⟨[], rfl, rfl⟩
  | some after =>
    rw [special] at opens
    dsimp only at opens
    cases fixed : fixedOpeners.find? (fun entry => entry.1.isPrefixOf ('(' :: '?' :: after)) with
    | some entry =>
      rw [fixed] at opens
      obtain ⟨rfl, rfl⟩ := Token.opener.inj opens
      have member := List.mem_of_find?_eq_some fixed
      simp only [fixedOpeners, List.mem_cons, List.not_mem_nil, or_false] at member
      rcases member with rfl | rfl | rfl | rfl | rfl | rfl <;> exact ⟨_, rfl, rfl⟩
    | none =>
      rw [fixed] at opens
      dsimp only at opens
      have again : ∃ tail, opening = '(' :: '?' :: tail ∧
          openerToken isName ('?' :: tail) = .opener kind opening := by
        split_ifs at opens with comment
        · cases opens
        cases named : namedOpener? isName after with
        | some token =>
          rw [named, Option.getD_some] at opens
          exact openerToken_named angle quote fixed comment (named.trans (congrArg some opens))
        | none =>
          rw [named, Option.getD_none] at opens
          exact openerToken_flags fixed opens
      obtain ⟨tail, whole, same⟩ := again
      exact ⟨'?' :: tail, whole, same⟩

end Alone

/-- The text of an opener that was read is the opener on its own. -/
theorem tokens_opening {afterClose : Bool} {text next opening : Text} {kind : GroupKind}
    (read : scan afterClose text = (.opener kind opening, next)) :
    (Cursor.start opening).tokens = [.opener kind opening, .endOfInput] := by
  obtain ⟨rest, rfl, opens⟩ := scanOpener_of_scan read
  have decided : openerToken isNameChar rest = .opener kind opening := by
    rw [← scanOpener_eq_openerToken, opens]
  obtain ⟨tail, rfl, again⟩ := openerToken_opening (by decide) (by decide) decided
  have first : (scan false ('(' :: tail)).1 = .opener kind ('(' :: tail) :=
    (scanOpener_eq_openerToken tail).trans again
  have whole := scan_source false ('(' :: tail)
  rw [first, Token.source, List.append_right_eq_self] at whole
  rw [Cursor.tokens, Cursor.start, scanAll_of_scan (Prod.ext first whole) (by simp) (by simp), scanAll]

end GroupUnroll
