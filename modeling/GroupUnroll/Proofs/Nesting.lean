import GroupUnroll.Proofs.Grammar
import Mathlib.Data.List.TakeWhile

/-! # Groups within groups

Whether the groups of a text are closed can be told without cutting it into tokens: one pass over its
characters keeps the place where the next character stands and how many groups are open. A place does not
depend on what follows it. An opening parenthesis counts at once, and is taken back if it turns out to start a
comment or a flag setting. So the pass over a text goes on where the one over its first part has stopped, whatever
tokens the two parts form together.
-/

namespace GroupUnroll

/-- How many groups are open after a token. -/
def Token.nest? (depth : Nat) : Token → Option Nat
  | .opener _ _ => some (depth + 1)
  | .closer => if depth = 0 then none else some (depth - 1)
  | _ => some depth

/-- How many groups are open after some tokens, if there is one to close for each closing parenthesis. -/
def nesting? (depth : Nat) (tokens : List Token) : Option Nat := tokens.foldlM Token.nest? depth

/-- Every closing parenthesis closes a group opened before it, and no group is left open. -/
def Balanced (tokens : List Token) : Prop := nesting? 0 tokens = some 0

instance (tokens : List Token) : Decidable (Balanced tokens) := inferInstanceAs (Decidable (_ = _))

section Nesting

variable {token : Token} {tokens : List Token} {depth : Nat}

theorem nesting?_cons : nesting? depth (token :: tokens) = (token.nest? depth).bind (nesting? · tokens) :=
  List.foldlM_cons

theorem nesting?_concat : nesting? depth (tokens ++ [token]) = (nesting? depth tokens).bind token.nest? := by
  simp [nesting?]

theorem Token.nest?_eq_none_iff : token.nest? depth = none ↔ token = .closer ∧ depth = 0 := by
  cases token <;> simp [Token.nest?]

/-- A closing parenthesis without a group is the first one behind tokens that close all groups. -/
theorem nesting?_eq_none_iff : nesting? depth tokens = none ↔
    ∃ inner later, tokens = inner ++ .closer :: later ∧ nesting? depth inner = some 0 := by
  induction tokens generalizing depth with
  | nil => simp [nesting?]
  | cons token tokens ih =>
    rw [nesting?_cons]
    cases nest : token.nest? depth with
    | none =>
      obtain ⟨rfl, rfl⟩ := Token.nest?_eq_none_iff.mp nest
      exact ⟨fun _ => ⟨[], tokens, rfl, rfl⟩, fun _ => rfl⟩
    | some deeper =>
      rw [Option.bind_some, ih]
      constructor
      · rintro ⟨inner, later, rfl, closes⟩
        exact ⟨token :: inner, later, rfl, by rwa [nesting?_cons, nest]⟩
      · rintro ⟨inner, later, whole, closes⟩
        rcases inner with _ | ⟨first, inner⟩
        · obtain ⟨rfl, -⟩ := List.cons.inj whole
          obtain rfl : depth = 0 := Option.some.inj closes
          exact absurd nest (by simp [Token.nest?])
        · obtain ⟨rfl, rfl⟩ := List.cons.inj whole
          rw [nesting?_cons, nest] at closes
          exact ⟨inner, later, rfl, closes⟩

end Nesting

/-! ## Places -/

/-- Where the next character of a text stands. -/
inductive Place
  /-- Between tokens, or in plain text. -/
  | between (afterClose : Bool)
  /-- Directly after an opening parenthesis. -/
  | opened
  /-- Directly after an opening parenthesis and a question mark. -/
  | marked
  /-- After these and letters that may become a flag setting. -/
  | flags
  | comment
  | braces
  | escaped
  | inClass (outer : Nat) (place : ClassPlace)
deriving DecidableEq

/-- The place after a character in a class. -/
def ClassPlace.step (outer : Nat) (place : ClassPlace) (c : Char) : Place :=
  if place = .escaped then .inClass outer .inside
  else if c = '\\' then .inClass outer .escaped
  else if c = '[' then .inClass (outer + 1) .opened
  else if c = ']' ∧ place = .inside then
    match outer with
    | 0 => .between false
    | outer + 1 => .inClass outer .inside
  else if c = '^' ∧ place = .opened then .inClass outer .negated
  else .inClass outer .inside

namespace Place

/-- The place and the depth after a character that may start a token. -/
def first? (afterClose : Bool) (depth : Nat) (c : Char) : Option (Place × Nat) :=
  if c = '\\' then some (.escaped, depth)
  else if c = '(' then some (.opened, depth + 1)
  else if c = ')' then if depth = 0 then none else some (.between true, depth - 1)
  else if afterClose ∧ c = '\x7b' then some (.braces, depth)
  else if c = '[' then some (.inClass 0 .opened, depth)
  else some (.between false, depth)

/-- The place and the depth after a character. -/
def step? : Place → Nat → Char → Option (Place × Nat)
  | .between afterClose, depth, c => first? afterClose depth c
  | .opened, depth, c => if c = '?' then some (.marked, depth) else first? false depth c
  | .marked, depth, c =>
    if c = '#' then some (.comment, depth - 1)
    else if isFlagChar c then some (.flags, depth)
    else first? false depth c
  | .flags, depth, c =>
    if c = ')' then some (.between false, depth - 1)
    else if isFlagChar c then some (.flags, depth)
    else first? false depth c
  | .comment, depth, c => some (if c = ')' then .between false else .comment, depth)
  | .braces, depth, c => some (if c = '\x7d' then .between false else .braces, depth)
  | .escaped, depth, _ => some (.between false, depth)
  | .inClass outer place, depth, c => some (place.step outer c, depth)

/-- The place and the depth after a text. -/
def run? (place : Place) (depth : Nat) : Text → Option (Place × Nat)
  | [] => some (place, depth)
  | c :: rest => (place.step? depth c).bind fun after => run? after.1 after.2 rest

variable {place middle other : Place} {depth : Nat} {text rest left : Text} {c : Char}

@[simp] theorem run?_nil : place.run? depth [] = some (place, depth) := rfl

theorem run?_cons {deeper : Nat} (stepped : place.step? depth c = some (middle, deeper)) :
    place.run? depth (c :: rest) = middle.run? deeper rest := by
  rw [run?, stepped]
  rfl

theorem run?_append {deeper : Nat} (first : place.run? depth text = some (middle, deeper)) (rest : Text) :
    place.run? depth (text ++ rest) = middle.run? deeper rest := by
  induction text generalizing place depth with
  | nil =>
    obtain ⟨rfl, rfl⟩ := Prod.mk.inj (Option.some.inj first)
    rfl
  | cons c tail ih =>
    rw [run?] at first
    cases stepped : place.step? depth c with
    | none =>
      rw [stepped] at first
      cases first
    | some after =>
      rw [stepped] at first
      rw [List.cons_append, run?_cons stepped]
      exact ih first

theorem step?_opened (other : c ≠ '?') : step? .opened depth c = first? false depth c := if_neg other

theorem step?_marked_flag (flag : isFlagChar c = true) : step? .marked depth c = some (.flags, depth) := by
  have other : c ≠ '#' := by
    rintro rfl
    exact absurd flag (by decide)
  rw [step?, if_neg other, if_pos flag]

theorem step?_marked (other : c ≠ '#') (flag : isFlagChar c = false) :
    step? .marked depth c = first? false depth c := by
  simp [step?, other, flag]

theorem step?_flags_flag (flag : isFlagChar c = true) : step? .flags depth c = some (.flags, depth) := by
  have other : c ≠ ')' := by
    rintro rfl
    exact absurd flag (by decide)
  rw [step?, if_neg other, if_pos flag]

theorem step?_flags (other : c ≠ ')') (flag : isFlagChar c = false) :
    step? .flags depth c = first? false depth c := by
  simp [step?, other, flag]

/-! ## Pieces that keep the depth -/

/-- Reading up to `left` keeps the depth, and comes to one of the given places if something is left. -/
def Passes (ends : Place → Prop) (place : Place) (text left : Text) : Prop :=
  ∀ depth, ∃ last, place.run? depth (Text.before text left) = some (last, depth) ∧ (left ≠ [] → ends last)

namespace Passes

variable {ends : Place → Prop}

theorem stay (here : ends place) : Passes ends place text text := by
  intro depth
  rw [Text.before_self]
  exact ⟨place, rfl, fun _ => here⟩

theorem atEnd : Passes ends place [] [] := fun _ => ⟨place, rfl, fun more => absurd rfl more⟩

theorem step (suffix : left <:+ rest) (stepped : ∀ depth, place.step? depth c = some (middle, depth))
    (more : Passes ends middle rest left) : Passes ends place (c :: rest) left := by
  intro depth
  obtain ⟨last, reached, ended⟩ := more depth
  rw [Text.before_cons c suffix, run?_cons (stepped depth)]
  exact ⟨last, reached, ended⟩

theorem mono {more : Place → Prop} (wider : ∀ place, ends place → more place)
    (passes : Passes ends place text left) : Passes more place text left := by
  intro depth
  obtain ⟨last, reached, ended⟩ := passes depth
  exact ⟨last, reached, fun remains => wider last (ended remains)⟩

theorem trans (first : Passes (· = middle) place text rest) (second : Passes ends middle rest left)
    (inner : rest <:+ text) (suffix : left <:+ rest) : Passes ends place text left := by
  intro depth
  have same : Text.before text left ++ left = (Text.before text rest ++ Text.before rest left) ++ left := by
    rw [List.append_assoc, Text.before_append suffix, Text.before_append inner,
      Text.before_append (suffix.trans inner)]
  have whole := List.append_cancel_right same
  obtain ⟨last, reached, ended⟩ := first depth
  rw [whole, run?_append reached]
  rcases rest with _ | ⟨c, rest⟩
  · obtain rfl := List.suffix_nil.mp suffix
    exact ⟨last, rfl, fun remains => absurd rfl remains⟩
  · obtain rfl := ended (by simp)
    exact second depth

end Passes

/-- Whether a character opens and closes nothing. -/
def isInert (c : Char) : Bool := c != '\\' && c != '(' && c != ')' && c != '['

theorem first?_inert (inert : isInert c = true) (depth : Nat) :
    first? false depth c = some (.between false, depth) := by
  simp only [isInert, Bool.and_eq_true, bne_iff_ne] at inert
  obtain ⟨⟨⟨backslash, opening⟩, closing⟩, bracket⟩ := inert
  simp [first?, backslash, opening, closing, bracket]

theorem isInert_of {keep : Char → Bool} (others : ['\\', '(', ')', '['].any keep = false)
    (kept : keep c = true) : isInert c = true := by
  have apart (d : Char) (member : d ∈ ['\\', '(', ')', '[']) : c ≠ d := by
    rintro rfl
    exact absurd kept (by simpa using List.any_eq_false.mp others c member)
  simp only [isInert, Bool.and_eq_true, bne_iff_ne]
  exact ⟨⟨⟨apart _ (by simp), apart _ (by simp)⟩, apart _ (by simp)⟩, apart _ (by simp)⟩

theorem isInert_of_isFlagChar (flag : isFlagChar c = true) : isInert c = true := isInert_of (by decide) flag

theorem run?_inert (inert : ∀ c ∈ text, isInert c = true) (depth : Nat) :
    run? (.between false) depth text = some (.between false, depth) := by
  induction text with
  | nil => rfl
  | cons c rest ih =>
    have stepped : step? (.between false) depth c = some (.between false, depth) :=
      first?_inert (inert c (List.mem_cons_self ..)) depth
    rw [run?_cons stepped]
    exact ih fun c member => inert c (List.mem_cons_of_mem _ member)

theorem run?_flags (flags : ∀ c ∈ text, isFlagChar c = true) (depth : Nat) :
    run? .flags depth text = some (.flags, depth) := by
  induction text with
  | nil => rfl
  | cons c rest ih =>
    rw [run?_cons (step?_flags_flag (flags c (List.mem_cons_self ..)))]
    exact ih fun c member => flags c (List.mem_cons_of_mem _ member)

/-- Up to a character where comments or braces stop. -/
theorem passes_through {stop : Char} (stepped : ∀ depth c,
    place.step? depth c = some (if c = stop then .between false else place, depth)) :
    Passes (· = .between false) place text (Text.dropThrough stop text) := by
  induction text with
  | nil => exact .atEnd
  | cons c rest ih =>
    rw [Text.dropThrough]
    split_ifs with stops
    · exact .step (List.suffix_refl _) (fun depth => by rw [stepped, if_pos stops]) (.stay rfl)
    · exact .step (Text.dropThrough_suffix stop rest) (fun depth => by rw [stepped, if_neg stops]) ih

theorem passes_class {outer : Nat} {within : ClassPlace} :
    Passes (· = .between false) (.inClass outer within) text (dropClassFrom outer within text) := by
  induction text generalizing outer within with
  | nil => exact .atEnd
  | cons c rest ih =>
    have next {outer' : Nat} {within' : ClassPlace} (stepped : within.step outer c = .inClass outer' within') :
        Passes (· = .between false) (.inClass outer within) (c :: rest) (dropClassFrom outer' within' rest) :=
      .step (dropClassFrom_suffix outer' within' rest) (fun depth => by rw [step?, stepped]) ih
    unfold dropClassFrom
    split_ifs with escaped backslash bracket closing negation
    · exact next (by simp [ClassPlace.step, escaped])
    · exact next (by simp [ClassPlace.step, escaped, backslash])
    · exact next (by simp [ClassPlace.step, escaped, bracket])
    · cases outer with
      | zero =>
        refine .step (List.suffix_refl _) (fun depth => ?_) (.stay rfl)
        simp [step?, ClassPlace.step, closing]
      | succ outer => exact next (by simp [ClassPlace.step, closing])
    · exact next (by simp [ClassPlace.step, negation])
    · exact next (by simp [ClassPlace.step, escaped, backslash, bracket, closing, negation])

/-- Between tokens, or behind letters that may become a flag setting: plain text goes on from there. -/
def Loose (place : Place) : Prop := place = .between false ∨ place = .flags

theorem loose_step (loose : place.Loose) (inert : isInert c = true) :
    ∃ middle, (∀ depth, place.step? depth c = some (middle, depth)) ∧ (middle = .between false ∨ middle = place) := by
  have plain := first?_inert inert
  rcases loose with rfl | rfl
  · exact ⟨_, plain, .inl rfl⟩
  · have other : c ≠ ')' := by
      rintro rfl
      exact absurd inert (by decide)
    cases flag : isFlagChar c with
    | true => exact ⟨.flags, fun _ => step?_flags_flag flag, .inr rfl⟩
    | false => exact ⟨.between false, fun depth => (step?_flags other flag).trans (plain depth), .inl rfl⟩

theorem passes_plain (loose : place.Loose) :
    Passes (fun last => last = .between false ∨ last = place) place text (dropPlainText text) := by
  fun_induction dropPlainText text generalizing place with
  | case1 => exact .atEnd
  | case2 => exact .stay (.inr rfl)
  | case3 rest _ ih =>
    have stepped (depth : Nat) : place.step? depth '[' = some (.inClass 0 .opened, depth) := by
      rcases loose with rfl | rfl <;> rfl
    have closed : Passes (· = .between false) place ('[' :: rest) (dropClass rest) :=
      .step (dropClass_suffix rest) stepped passes_class
    refine closed.trans ((ih (.inl rfl)).mono fun last ended => .inl (or_self_iff.mp ended))
      ((dropClass_suffix rest).trans (List.suffix_cons _ _)) (dropPlainText_suffix _)
  | case4 c rest goesOn bracket ih =>
    have inert : isInert c = true := by
      simp only [endsPlainText, Bool.or_eq_true, beq_iff_eq, not_or] at goesOn
      obtain ⟨⟨⟨opening, closing⟩, backslash⟩, -⟩ := goesOn
      simp [isInert, opening, closing, backslash, bracket]
    obtain ⟨middle, stepped, next⟩ := loose_step loose inert
    have still : middle.Loose := by
      rcases next with rfl | rfl
      · exact .inl rfl
      · exact loose
    refine .step (dropPlainText_suffix rest) stepped ((ih still).mono fun last ended => ?_)
    rcases ended with rfl | rfl
    · exact .inl rfl
    · exact next

/-! ## Places that a text does not tell apart -/

/-- Reading the text leads to the same depth from both places. -/
def Agrees (place other : Place) (text : Text) : Prop :=
  ∀ depth, (place.run? depth text).map Prod.snd = (other.run? depth text).map Prod.snd

namespace Agrees

theorem refl (place : Place) (text : Text) : Agrees place place text := fun _ => rfl

theorem nil : Agrees place other [] := fun _ => rfl

theorem of_step (same : ∀ depth, place.step? depth c = other.step? depth c) : Agrees place other (c :: rest) := by
  intro depth
  rw [run?, run?, same]

theorem step {place' other' : Place} (first : ∀ depth, place.step? depth c = some (place', depth))
    (second : ∀ depth, other.step? depth c = some (other', depth)) (more : Agrees place' other' rest) :
    Agrees place other (c :: rest) := by
  intro depth
  rw [run?_cons (first depth), run?_cons (second depth)]
  exact more depth

theorem opened (unmarked : text.head? ≠ some '?') : Agrees .opened (.between false) text := by
  rcases text with _ | ⟨c, rest⟩
  · exact .nil
  · have other : c ≠ '?' := fun same => unmarked (congrArg some same)
    exact .of_step fun _ => step?_opened other

/-- Letters that no closing parenthesis ends are no flag setting. -/
theorem flags (unclosed : (text.dropWhile isFlagChar).head? ≠ some ')') : Agrees .flags (.between false) text := by
  induction text with
  | nil => exact .nil
  | cons c rest ih =>
    cases flag : isFlagChar c with
    | true =>
      rw [List.dropWhile_cons_of_pos flag] at unclosed
      exact .step (fun _ => step?_flags_flag flag) (first?_inert (isInert_of_isFlagChar flag)) (ih unclosed)
    | false =>
      rw [List.dropWhile_cons_of_neg (by simp [flag])] at unclosed
      have other : c ≠ ')' := fun same => unclosed (congrArg some same)
      exact .of_step fun _ => step?_flags other flag

theorem marked (comment : text.head? ≠ some '#')
    (unclosed : text.takeWhile isFlagChar ≠ [] → (text.dropWhile isFlagChar).head? ≠ some ')') :
    Agrees .marked (.between false) text := by
  rcases text with _ | ⟨c, rest⟩
  · exact .nil
  have other : c ≠ '#' := fun same => comment (congrArg some same)
  cases flag : isFlagChar c with
  | true =>
    rw [List.takeWhile_cons_of_pos flag, List.dropWhile_cons_of_pos flag] at unclosed
    exact .step (fun _ => step?_marked_flag flag) (first?_inert (isInert_of_isFlagChar flag))
      (.flags (unclosed (by simp)))
  | false => exact .of_step fun _ => step?_marked other flag

end Agrees

/-! ## Openers -/

/-- Where the body of a group of some kind starts. -/
def Begins (kind : GroupKind) (place : Place) (body : Text) : Prop :=
  match kind with
  | .capturing => place = .opened ∧ body.head? ≠ some '?'
  | .other => place = .marked ∧ body.head? ≠ some '#'
  | _ => place = .between false

/-- What is read behind an opening parenthesis: an opener, or text that takes the parenthesis back. -/
inductive Opens : Token → Text → Prop
  | group {kind : GroupKind} {spelling next : Text} {place : Place}
      (reaches : ∀ depth, run? .opened depth spelling = some (place, depth)) (begins : Begins kind place next)
      (agrees : Agrees place (.between false) next) : Opens (.opener kind ('(' :: spelling)) next
  | text {spelling next : Text}
      (passes : ∀ depth, ∃ place, run? .opened (depth + 1) spelling = some (place, depth) ∧
        (next ≠ [] → place = .between false)) : Opens (.plain ('(' :: spelling)) next

theorem isInert_of_isNameChar (letter : isNameChar c = true) : isInert c = true := isInert_of (by decide) letter

theorem isInert_of_isAliasChar (letter : isAliasChar c = true) : isInert c = true := isInert_of (by decide) letter

/-- An opener that is the same whatever follows it. -/
theorem opens_special {kind : GroupKind} {spelling next : Text}
    (plain : ∀ place, Begins kind place next ↔ place = .between false)
    (reaches : ∀ depth, run? .marked depth spelling = some (.between false, depth)) :
    Opens (specialOpener kind spelling) next :=
  .group (fun depth => (run?_cons rfl).trans (reaches depth)) ((plain _).mpr rfl) (.refl _ _)

theorem opens_scanName? {spelling next : Text} {stop : Char} {token : Token} (stops : isInert stop = true)
    (reaches : ∀ depth, run? .marked depth spelling = some (.between false, depth))
    (found : scanName? spelling stop text = some (token, next)) : Opens token next := by
  unfold scanName? at found
  split at found
  · split at found
    · obtain ⟨rfl, rfl⟩ := Prod.mk.inj (Option.some.inj found)
      refine opens_special (fun _ => .rfl) fun depth => ?_
      rw [List.append_assoc, run?_append (reaches depth)]
      refine run?_inert (fun c member => ?_) depth
      rcases List.mem_append.mp member with letter | last
      · exact isInert_of_isNameChar (List.mem_takeWhile_imp letter)
      · obtain rfl := List.mem_singleton.mp last
        exact stops
    · cases found
  · cases found

theorem opens_scanNamed? {next : Text} {token : Token} (found : scanNamed? text = some (token, next)) :
    Opens token next := by
  unfold scanNamed? at found
  split at found
  · exact opens_scanName? (by decide) (fun _ => rfl) found
  · exact opens_scanName? (by decide) (fun _ => rfl) found
  · exact opens_scanName? (by decide) (fun _ => rfl) found
  · cases found

theorem run?_marked_flags (flags : ∀ c ∈ text, isFlagChar c = true) (some_letter : text ≠ []) (depth : Nat) :
    run? .marked depth text = some (.flags, depth) := by
  obtain ⟨c, rest, rfl⟩ := List.exists_cons_of_ne_nil some_letter
  rw [run?_cons (step?_marked_flag (flags c (List.mem_cons_self ..)))]
  exact run?_flags (fun c member => flags c (List.mem_cons_of_mem _ member)) depth

theorem opens_scanFlags (comment : text.head? ≠ some '#') : Opens (scanFlags text).1 (scanFlags text).2 := by
  have other (unclosed : text.takeWhile isFlagChar ≠ [] → (text.dropWhile isFlagChar).head? ≠ some ')') :
      Opens (specialOpener .other []) text :=
    .group (fun _ => rfl) ⟨rfl, comment⟩ (.marked comment unclosed)
  have letters : ∀ c ∈ text.takeWhile isFlagChar, isFlagChar c = true := fun c => List.mem_takeWhile_imp
  unfold scanFlags
  split
  · rename_i c rest left
    split
    · rename_i setting
      refine .text fun depth => ⟨.between false, ?_, fun _ => rfl⟩
      rw [run?_cons rfl, run?_append (run?_marked_flags letters setting.1 (depth + 1))]
      rfl
    · rename_i setting
      split
      · rename_i colon
        refine opens_special (fun _ => .rfl) fun depth => ?_
        rw [run?_append (run?_marked_flags letters colon.1 depth)]
        rfl
      · refine other fun some_letter => ?_
        rw [left]
        intro same
        exact setting ⟨some_letter, Option.some.inj same⟩
  · rename_i left
    refine other fun _ => ?_
    simp [left]

theorem opens_scanComment : Opens (scanComment ('#' :: text)).1 (scanComment ('#' :: text)).2 := by
  have dropped : Text.dropThrough ')' ('#' :: text) = Text.dropThrough ')' text := rfl
  have passes : Passes (· = .between false) .comment text (Text.dropThrough ')' text) :=
    passes_through fun _ _ => rfl
  refine .text fun depth => ?_
  obtain ⟨place, reached, ended⟩ := passes depth
  rw [dropped, Text.before_cons _ (Text.dropThrough_suffix ')' text)]
  exact ⟨place, reached, ended⟩

theorem opens_scanSpecial (text : Text) : Opens (scanSpecial text).1 (scanSpecial text).2 := by
  unfold scanSpecial
  split
  · exact opens_special (fun _ => .rfl) fun _ => rfl
  · exact opens_special (fun _ => .rfl) fun _ => rfl
  · exact opens_special (fun _ => .rfl) fun _ => rfl
  · exact opens_special (fun _ => .rfl) fun _ => rfl
  · exact opens_special (fun _ => .rfl) fun _ => rfl
  · exact opens_special (fun _ => .rfl) fun _ => rfl
  · exact opens_scanComment
  · rename_i comment
    cases found : scanNamed? text with
    | some result => exact opens_scanNamed? found
    | none =>
      refine opens_scanFlags fun same => ?_
      obtain ⟨rest, rfl⟩ := List.head?_eq_some_iff.mp same
      exact comment rest rfl

/-- What is read behind an opening parenthesis. -/
theorem opens_scanOpener (text : Text) : Opens (scanOpener text).1 (scanOpener text).2 := by
  unfold scanOpener
  split
  · exact opens_scanSpecial _
  · rename_i unmarked
    have other : text.head? ≠ some '?' := by
      intro same
      obtain ⟨rest, rfl⟩ := List.head?_eq_some_iff.mp same
      exact unmarked rest rfl
    exact .group (fun _ => rfl) ⟨rfl, other⟩ (.opened other)

/-! ## Tokens -/

section Tokens

variable {afterClose : Bool} {next opening : Text} {kind : GroupKind} {token : Token}

/-- A quantifier is told from other text by its first character. -/
theorem step?_unquantified (unquantified : afterClose = true → c ≠ '\x7b') :
    step? (.between afterClose) depth c = step? (.between false) depth c := by
  cases afterClose with
  | false => rfl
  | true => simp [step?, first?, unquantified rfl]

/-- A token that opens and closes nothing keeps the depth, and what follows it is between tokens. -/
theorem run?_of_scan (read : scan afterClose text = (token, next)) (keeps : ∀ depth, token.nest? depth = some depth)
    (depth : Nat) : ∃ place, run? (.between afterClose) depth token.source = some (place, depth) ∧
      (next ≠ [] → place = .between false) := by
  rcases text with _ | ⟨c, rest⟩
  · obtain ⟨rfl, rfl⟩ := Prod.mk.inj read
    exact ⟨_, rfl, fun more => absurd rfl more⟩
  simp only [scan] at read
  split_ifs at read with backslash opening closing sign brace reference
  · subst backslash
    rcases rest with _ | ⟨escaped, rest⟩
    · obtain ⟨rfl, rfl⟩ := Prod.mk.inj read
      exact ⟨.escaped, rfl, fun more => absurd rfl more⟩
    · obtain ⟨rfl, rfl⟩ := Prod.mk.inj read
      exact ⟨.between false, rfl, fun _ => rfl⟩
  · subst opening
    have opens := opens_scanOpener rest
    rw [read] at opens
    cases opens with
    | group _ _ _ => exact absurd (keeps 0) (by simp [Token.nest?])
    | text passes =>
      obtain ⟨place, reached, ended⟩ := passes depth
      exact ⟨place, (run?_cons rfl).trans reached, ended⟩
  · obtain ⟨rfl, rfl⟩ := Prod.mk.inj read
    exact absurd (keeps 0) (by simp [Token.nest?])
  · obtain ⟨rfl, rfl⟩ := Prod.mk.inj read
    refine ⟨.between false, ?_, fun _ => rfl⟩
    rcases sign.2 with rfl | rfl <;> (rw [Token.source, run?_cons (step?_unquantified fun _ => by decide)]; rfl)
  · obtain ⟨rfl, rfl⟩ := brace
    obtain ⟨rfl, rfl⟩ := Prod.mk.inj read
    have dropped : Text.dropThrough '\x7d' ('\x7b' :: rest) = Text.dropThrough '\x7d' rest := rfl
    have passes : Passes (· = .between false) .braces rest (Text.dropThrough '\x7d' rest) :=
      passes_through fun _ _ => rfl
    rw [Token.source, dropped, Text.before_cons _ (Text.dropThrough_suffix _ rest)]
    obtain ⟨place, reached, ended⟩ := passes depth
    exact ⟨place, (run?_cons rfl).trans reached, ended⟩
  · subst reference
    have sigil : step? (.between afterClose) depth '@' = some (.between false, depth) :=
      step?_unquantified fun _ => by decide
    have letters : ∀ c ∈ rest.takeWhile isAliasChar, isInert c = true := fun c member =>
      isInert_of_isAliasChar (List.mem_takeWhile_imp member)
    refine ⟨.between false, ?_, fun _ => rfl⟩
    unfold scanReference at read
    split at read
    · obtain ⟨rfl, rfl⟩ := Prod.mk.inj read
      exact run?_cons sigil
    · rename_i name taken
      obtain ⟨rfl, rfl⟩ := Prod.mk.inj read
      rw [taken] at letters
      exact (run?_cons sigil).trans (run?_inert letters depth)
  · have plain : endsPlainText c = false := by simp_all [endsPlainText]
    obtain ⟨rfl, rfl⟩ := Prod.mk.inj read
    have shorter : dropPlainText (c :: rest) <:+ rest := by
      refine (List.suffix_cons_iff.mp (dropPlainText_suffix (c :: rest))).resolve_left fun whole => ?_
      exact absurd (congrArg List.length whole) (dropPlainText_length_lt plain).ne
    have passes : Passes _ (.between false) (c :: rest) _ := passes_plain (.inl rfl)
    obtain ⟨place, reached, ended⟩ := passes depth
    refine ⟨place, ?_, fun more => or_self_iff.mp (ended more)⟩
    rw [Token.source, Text.before_cons c shorter] at *
    rw [run?, step?_unquantified fun follows same => brace ⟨follows, same⟩]
    exact reached

/-- Behind its parenthesis, an opener leads to where the body of the group starts. -/
theorem exists_opened_of_scan (read : scan afterClose text = (.opener kind opening, next)) :
    ∃ spelling place, opening = '(' :: spelling ∧ (∀ depth, run? .opened depth spelling = some (place, depth)) ∧
      Begins kind place next ∧ Agrees place (.between false) next := by
  obtain ⟨rest, -, opened⟩ := scanOpener_of_scan read
  have opens := opens_scanOpener rest
  rw [opened] at opens
  cases opens with
  | group reaches begins agrees => exact ⟨_, _, rfl, reaches, begins, agrees⟩

/-- Behind a token that is no closing parenthesis, text counts as it does between tokens. -/
theorem agrees_of_scan (read : scan afterClose text = (token, next)) (inside : token ≠ .closer) (depth : Nat) :
    ∃ place deeper, token.nest? depth = some deeper ∧
      run? (.between afterClose) depth token.source = some (place, deeper) ∧ Agrees place (.between false) next := by
  have copied (keeps : ∀ depth, token.nest? depth = some depth) : ∃ place deeper,
      token.nest? depth = some deeper ∧ run? (.between afterClose) depth token.source = some (place, deeper) ∧
        Agrees place (.between false) next := by
    obtain ⟨place, reached, ended⟩ := run?_of_scan read keeps depth
    refine ⟨place, depth, keeps depth, reached, ?_⟩
    rcases next with _ | ⟨c, rest⟩
    · exact .nil
    · rw [ended (by simp)]
      exact .refl _ _
  cases token with
  | opener kind opening =>
    obtain ⟨spelling, place, rfl, reaches, -, agrees⟩ := exists_opened_of_scan read
    exact ⟨place, depth + 1, rfl, (run?_cons rfl).trans (reaches (depth + 1)), agrees⟩
  | closer => exact absurd rfl inside
  | plain run => exact copied fun _ => rfl
  | escape escaped => exact copied fun _ => rfl
  | quantifier raw => exact copied fun _ => rfl
  | reference name => exact copied fun _ => rfl
  | endOfInput => exact copied fun _ => rfl

end Tokens

end Place

/-- The depth that a text leads to is the one that its tokens lead to. -/
theorem nesting?_scanAll (afterClose : Bool) (text : Text) (depth : Nat) :
    nesting? depth (scanAll afterClose text) = (Place.run? (.between afterClose) depth text).map Prod.snd := by
  induction length : text.length using Nat.strongRecOn generalizing text afterClose depth with
  | ind size ih =>
    subst length
    rcases text with _ | ⟨c, rest⟩
    · rw [scanAll]
      rfl
    obtain ⟨⟨token, next⟩, read⟩ : ∃ result, scan afterClose (c :: rest) = result := ⟨_, rfl⟩
    have whole := source_append_of_scan read
    have characters := scan_source_ne_nil afterClose c rest
    rw [read] at characters
    by_cases closes : token = .closer
    · subst closes
      obtain ⟨rfl, rfl⟩ := List.cons.inj whole
      rw [scanAll_closer]
      rcases depth with _ | depth
      · rfl
      · exact ih _ (Nat.lt_succ_self _) true next depth rfl
    · have more : token ≠ .endOfInput := by
        rintro rfl
        exact characters rfl
      obtain ⟨place, deeper, nests, reached, agrees⟩ := Place.agrees_of_scan read closes depth
      have shorter := scan_length_lt afterClose c rest
      rw [read] at shorter
      rw [scanAll_of_scan read more closes, ← whole, Place.run?_append reached, agrees deeper,
        nesting?_cons, nests]
      exact ih _ shorter false next deeper rfl

end GroupUnroll
