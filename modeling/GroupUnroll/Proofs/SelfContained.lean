import GroupUnroll.Proofs.Expansion
import GroupUnroll.Proofs.Lookup
import GroupUnroll.Proofs.Nesting
import GroupUnroll.Proofs.Rereading

/-! # What stands for a reference

The body of an alias is read on its own, but what is written for it comes to stand between other text. It closes
what it opens, so the groups around it are undisturbed as long as no token forms across its ends. At its start
one may form behind an opening parenthesis and behind a closing one; at its end, where its last run of plain text
goes on, or where text comes to stand behind a parenthesis that closes it. A group named after the alias keeps
its start apart, not its end.
-/

namespace GroupUnroll

/-- A text that may come to stand behind a closing parenthesis: a quantifier that starts it there can be read. -/
def Docile (text : Text) : Prop :=
  ∀ raw later, scan true text = (.quantifier raw, later) → ∃ bounds, Repetition.ofQuantifier raw 0 = .ok bounds

/-- A run of plain text that ends before a closing parenthesis. -/
def Finished (run : Text) : Prop := scan false (run ++ [')']) = (.plain run, [')'])

/-- What keeps the tokens of a text apart from what is inserted into it. Text behind a reference to an alias may
come to stand behind a closing parenthesis; behind an opener that nothing else spells, what is inserted might
turn it into a comment. -/
structure AliasTable.Joins (table : AliasTable) (tokens : List Token) : Prop where
  behind : ∀ name body after, .reference name :: after <:+ tokens → table.get? name = some body →
    Docile (after.flatMap Token.source)
  apart : table.naming = false → ∀ opening name after,
    .opener .other opening :: .reference name :: after <:+ tokens → table.get? name = none

/-- What keeps a body apart from the text that it is inserted into. -/
structure AliasTable.Inserts (table : AliasTable) (body : Text) : Prop where
  finished : ∀ run, .plain run ∈ scanAll false body → Finished run
  nonempty : table.naming = false → body ≠ []
  unmarked : table.naming = false → body.head? ≠ some '?'
  docile : table.naming = false → Docile body

/-- What keeps a pattern and the bodies that it leads to apart from each other. It is enough, and more than enough. A
body that is empty or starts with a question mark is ruled out wherever it is inserted, though it only matters behind
an opening parenthesis. A quantifier that can be read is asked for behind every reference and at the start of every
body, though it only matters behind a closing parenthesis. -/
structure AliasTable.Fits (table : AliasTable) (pattern : Text) : Prop where
  texts : ∀ text, table.Reads pattern text → table.Joins (scanAll false text)
  bodies : ∀ name body, table.Leads pattern name body → table.Inserts body

/-! ## Quantifiers behind what is inserted -/

theorem docile_of_unquantified {text : Text} (unquantified : startsQuantifier text = false) : Docile text := by
  intro raw later read
  rw [(startsQuantifier_of_scan read).2] at unquantified
  cases unquantified

/-- Braces that can be read are closed before a character that means anything elsewhere. -/
theorem BraceText.exists_of_read {opened position : Nat} {first done : BraceText} {text : Text}
    (closed : read opened position first text = .ok done) :
    ∃ taken rest, text = taken ++ '\x7d' :: rest ∧
      ∀ c ∈ taken, c ≠ '\x7d' ∧ c ≠ '@' ∧ Place.isInert c = true := by
  induction text generalizing first position with
  | nil => cases closed
  | cons c rest ih =>
    have goesOn (brace : c ≠ '\x7d') (harmless : c ≠ '@' ∧ Place.isInert c = true) {first : BraceText}
        {position : Nat} (closed : read opened position first rest = .ok done) :
        ∃ taken more, c :: rest = taken ++ '\x7d' :: more ∧
          ∀ c ∈ taken, c ≠ '\x7d' ∧ c ≠ '@' ∧ Place.isInert c = true := by
      obtain ⟨taken, more, rfl, inner⟩ := ih closed
      exact ⟨c :: taken, more, rfl, List.forall_mem_cons.mpr ⟨⟨brace, harmless⟩, inner⟩⟩
    rw [read] at closed
    split_ifs at closed with brace blank digit comma
    · exact ⟨[], rest, by rw [brace]; rfl, by simp⟩
    · refine goesOn brace ⟨?_, Place.isInert_of (by decide) blank⟩ closed
      rintro rfl
      exact absurd blank (by decide)
    · refine goesOn brace ⟨?_, Place.isInert_of (by decide) digit⟩ closed
      rintro rfl
      exact absurd digit (by decide)
    · refine goesOn brace ?_ closed
      rw [comma.1]
      decide

/-- Braces that start a docile text are closed before a character that means anything elsewhere. -/
theorem Docile.exists_braces {rest : Text} (docile : Docile ('\x7b' :: rest)) :
    ∃ taken more, rest = taken ++ '\x7d' :: more ∧ ∀ c ∈ taken, c ≠ '\x7d' ∧ c ≠ '@' ∧ Place.isInert c = true := by
  have suffix := Text.dropThrough_suffix '\x7d' rest
  obtain ⟨bounds, stated⟩ := docile _ _ rfl
  change Repetition.ofQuantifier (Text.before ('\x7b' :: rest) (Text.dropThrough '\x7d' rest)) 0 = _ at stated
  rw [Text.before_cons _ suffix] at stated
  obtain ⟨done, closed, -⟩ := bind_eq_ok.mp stated
  obtain ⟨taken, more, split, harmless⟩ := BraceText.exists_of_read closed
  have whole := Text.before_append suffix
  rw [split, List.append_assoc, List.cons_append] at whole
  exact ⟨taken, _, whole.symm, harmless⟩

/-- Braces closed before a character that means anything elsewhere are plain text elsewhere. -/
theorem plain_braces {taken : Text} (harmless : ∀ c ∈ taken, c ≠ '\x7d' ∧ c ≠ '@' ∧ Place.isInert c = true) :
    ∀ c ∈ '\x7b' :: (taken ++ ['\x7d']), endsPlainText c = false ∧ c ≠ '[' := by
  intro c member
  rcases List.mem_cons.mp member with rfl | member
  · decide
  rcases List.mem_append.mp member with member | member
  · obtain ⟨-, reference, inert⟩ := harmless c member
    simp only [Place.isInert, Bool.and_eq_true, bne_iff_ne] at inert
    obtain ⟨⟨⟨backslash, opening⟩, closing⟩, bracket⟩ := inert
    exact ⟨by simp [endsPlainText, backslash, opening, closing, reference], bracket⟩
  · obtain rfl := List.mem_singleton.mp member
    decide

/-! ## Calm places -/

namespace Place

variable {place : Place} {text next rest run : Text} {token : Token} {depth : Nat} {c : Char}

/-- A place that is not inside a token, apart from letters that may become a flag setting. -/
def Calm : Place → Prop
  | .between _ | .opened | .marked | .flags => True
  | _ => False

/-- A calm place that does not follow an opening parenthesis, or only with letters in between. -/
def Resting : Place → Prop
  | .between _ | .flags => True
  | _ => False

/-- A calm place in front of a text that forms no other token there than it does elsewhere. -/
def Ready : Place → Text → Prop
  | .between true, text => Docile text
  | .between false, _ | .flags, _ => True
  | .opened, text => text.head? ≠ some '?'
  | .marked, text => text.head? ≠ some '#'
  | _, _ => False

theorem Ready.calm (ready : place.Ready text) : place.Calm := by
  cases place <;> trivial

theorem Resting.calm (resting : place.Resting) : place.Calm := by
  cases place <;> trivial

theorem Resting.ready (resting : place.Resting) (docile : Docile text) : place.Ready text := by
  rcases place with (_ | _) | _ | _ | _ | _ | _ | _ | _ <;> first | exact docile | trivial

theorem Resting.ne_marked (resting : place.Resting) : place ≠ .marked := by
  rintro rfl
  exact resting

theorem Loose.resting (loose : place.Loose) : place.Resting := by
  rcases loose with rfl | rfl <;> trivial

theorem Loose.ready (loose : place.Loose) (text : Text) : place.Ready text := by
  rcases loose with rfl | rfl <;> trivial

theorem Calm.run?_eq (calm : place.Calm) (starts : c ∈ ['\\', '(', '@']) :
    place.run? depth (c :: rest) = run? (.between false) depth (c :: rest) := by
  have same : place.step? depth c = step? (.between false) depth c := by
    simp only [List.mem_cons, List.not_mem_nil, or_false] at starts
    rcases starts with rfl | rfl | rfl <;> rcases place with (_ | _) | _ | _ | _ | _ | _ | _ | _ <;>
      first | rfl | exact calm.elim
  rw [run?, run?, same]

/-- A closing parenthesis closes the innermost group. -/
theorem Calm.step?_closer (calm : place.Calm) :
    ∃ afterClose, ∀ depth, place.step? (depth + 1) ')' = some (.between afterClose, depth) := by
  rcases place with afterClose | _ | _ | _ | _ | _ | _ | _
  · exact ⟨true, fun _ => rfl⟩
  · exact ⟨true, fun _ => rfl⟩
  · exact ⟨true, fun _ => rfl⟩
  · exact ⟨false, fun _ => rfl⟩
  all_goals exact calm.elim

/-- The first character tells from a ready place what it tells from a loose one, unless it is a brace that may
start a quantifier. -/
theorem Ready.step?_eq (ready : place.Ready (c :: rest)) (brace : place = .between true → c ≠ '\x7b') :
    ∃ loose : Place, loose.Loose ∧ ∀ depth, place.step? depth c = loose.step? depth c := by
  rcases place with (_ | _) | _ | _ | _ | _ | _ | _ | _
  · exact ⟨_, .inl rfl, fun _ => rfl⟩
  · exact ⟨_, .inl rfl, fun _ => step?_unquantified fun _ => brace rfl⟩
  · exact ⟨_, .inl rfl, fun _ => step?_opened fun same => ready (congrArg some same)⟩
  · cases flag : isFlagChar c with
    | true => exact ⟨_, .inr rfl, fun _ => (step?_marked_flag flag).trans (step?_flags_flag flag).symm⟩
    | false => exact ⟨_, .inl rfl, fun _ => step?_marked (fun same => ready (congrArg some same)) flag⟩
  · exact ⟨_, .inr rfl, fun _ => rfl⟩
  all_goals exact ready.elim

/-- Braces that can be read are passed over between tokens as they are behind a closing parenthesis. -/
theorem run?_braces {taken : Text} (harmless : ∀ c ∈ taken, c ≠ '\x7d' ∧ c ≠ '@' ∧ isInert c = true) (rest : Text)
    (depth : Nat) : run? (.between true) depth ('\x7b' :: (taken ++ '\x7d' :: rest)) =
      run? (.between false) depth ('\x7b' :: (taken ++ '\x7d' :: rest)) := by
  have inside : run? .braces depth taken = some (.braces, depth) := by
    induction taken with
    | nil => rfl
    | cons c taken ih =>
      have stays : step? .braces depth c = some (.braces, depth) := by
        rw [step?, if_neg (harmless c (List.mem_cons_self ..)).1]
      rw [run?_cons stays]
      exact ih fun c member => harmless c (List.mem_cons_of_mem _ member)
  have outside : run? (.between false) depth taken = some (.between false, depth) :=
    run?_inert (fun c member => (harmless c member).2.2) depth
  have first : step? (.between false) depth '\x7b' = some (.between false, depth) := rfl
  have last : step? (.between false) depth '\x7d' = some (.between false, depth) := rfl
  have braces : step? (.between true) depth '\x7b' = some (.braces, depth) := rfl
  have closed : step? .braces depth '\x7d' = some (.between false, depth) := rfl
  rw [run?_cons braces, run?_append inside, run?_cons closed, run?_cons first, run?_append outside, run?_cons last]

/-- Plain text that is read off a text is read from a ready place in front of it as it is from a loose one. -/
theorem Ready.run?_eq (ready : place.Ready text) (read : scan false text = (.plain run, next)) :
    ∃ loose : Place, loose.Loose ∧ ∀ depth, place.run? depth run = loose.run? depth run := by
  rcases text with _ | ⟨c, rest⟩
  · cases read
  obtain ⟨more, rfl⟩ : ∃ more, run = c :: more := exists_source_of_scan read
  have whole := source_append_of_scan read
  by_cases brace : place = .between true ∧ c = '\x7b'
  · obtain ⟨rfl, rfl⟩ := brace
    obtain ⟨taken, later, rfl, harmless⟩ := Docile.exists_braces ready
    have dropped := dropPlainText_plain (plain_braces harmless) later
    rw [List.cons_append, List.append_assoc, List.singleton_append] at dropped
    obtain ⟨-, rfl⟩ := Prod.mk.inj ((scan_plain (by decide) _).symm.trans read)
    rw [dropped] at whole
    have split : '\x7b' :: more = '\x7b' :: (taken ++ '\x7d' :: Text.before later (dropPlainText later)) :=
      List.append_cancel_right (whole.trans (by simp [Text.before_append (dropPlainText_suffix later)]))
    rw [split]
    exact ⟨_, .inl rfl, run?_braces harmless _⟩
  · obtain ⟨loose, isLoose, same⟩ := ready.step?_eq fun closed opens => brace ⟨closed, opens⟩
    exact ⟨loose, isLoose, fun depth => by rw [Place.run?, Place.run?, same]⟩

/-- Plain text that is read off a text, from a loose place. -/
theorem Loose.run?_plain (loose : place.Loose) (read : scan false text = (.plain run, next)) (depth : Nat) :
    ∃ last, place.run? depth run = some (last, depth) ∧ (next ≠ [] → last.Loose) := by
  rcases text with _ | ⟨c, rest⟩
  · cases read
  cases ends : endsPlainText c with
  | false =>
    obtain ⟨same, rfl⟩ := Prod.mk.inj ((scan_plain ends rest).symm.trans read)
    obtain rfl := Token.plain.inj same
    obtain ⟨last, reached, ended⟩ := passes_plain loose depth
    refine ⟨last, reached, fun more => ?_⟩
    rcases ended more with rfl | rfl
    · exact .inl rfl
    · exact loose
  | true =>
    obtain ⟨more, rfl⟩ : ∃ more, run = c :: more := exists_source_of_scan read
    have starts : c ∈ ['\\', '(', '@'] := by
      simp only [endsPlainText, Bool.or_eq_true, beq_iff_eq] at ends
      rcases ends with ((rfl | rfl) | rfl) | rfl
      · decide
      · cases read
      · decide
      · decide
    obtain ⟨last, reached, ended⟩ := run?_of_scan read (fun _ => rfl) depth
    refine ⟨last, ?_, fun remains => .inl (ended remains)⟩
    rw [(loose.ready []).calm.run?_eq starts]
    exact reached

/-- Plain text in front of more, or that is finished, leads from a ready place to a loose one. -/
theorem Ready.run?_plain (ready : place.Ready text) (read : scan false text = (.plain run, next)) (depth : Nat) :
    ∃ last, place.run? depth run = some (last, depth) ∧ (next ≠ [] ∨ Finished run → last.Loose) := by
  obtain ⟨loose, isLoose, same⟩ := ready.run?_eq read
  obtain ⟨last, reached, ended⟩ := isLoose.run?_plain read depth
  refine ⟨last, (same depth).trans reached, fun apart => ?_⟩
  rcases apart with more | finished
  · exact ended more
  · obtain ⟨last', reached', ended'⟩ := isLoose.run?_plain finished depth
    obtain ⟨rfl, -⟩ := Prod.mk.inj (Option.some.inj (reached.symm.trans reached'))
    exact ended' (by simp)

theorem Calm.run?_escape (calm : place.Calm) (escaped : Char) :
    place.run? depth ['\\', escaped] = some (.between false, depth) := by
  rw [calm.run?_eq (by decide)]
  rfl

theorem Calm.run?_reference {name : Text} (calm : place.Calm) (letters : ∀ c ∈ name, isAliasChar c = true) :
    place.run? depth ('@' :: name) = some (.between false, depth) := by
  rw [calm.run?_eq (by decide)]
  refine run?_inert (List.forall_mem_cons.mpr ⟨by decide, fun c member => ?_⟩) depth
  exact isInert_of_isAliasChar (letters c member)

theorem Calm.run?_named {name : Text} (calm : place.Calm) (letters : ∀ c ∈ name, isAliasChar c = true) :
    place.run? depth (Unroller.namedOpening name) = some (.between false, depth + 1) := by
  have opening : run? (.between false) depth "(?<".toList = some (.between false, depth + 1) := rfl
  have spelled : Unroller.namedOpening name = "(?<".toList ++ (name ++ ['>']) := rfl
  rw [Unroller.namedOpening, calm.run?_eq (by decide), ← Unroller.namedOpening, spelled, run?_append opening]
  refine run?_inert (fun c member => ?_) (depth + 1)
  rcases List.mem_append.mp member with letter | last
  · exact isInert_of_isAliasChar (letters c letter)
  · obtain rfl := List.mem_singleton.mp last
    decide

/-- A group begins at a calm place. -/
theorem Calm.run?_opener {afterClose : Bool} {opening : Text} {kind : GroupKind} (calm : place.Calm)
    (read : scan afterClose text = (.opener kind opening, next)) :
    ∃ inner : Place, (∀ depth, place.run? depth opening = some (inner, depth + 1)) ∧ Begins kind inner next := by
  obtain ⟨spelling, inner, rfl, reaches, begins, -⟩ := exists_opened_of_scan read
  refine ⟨inner, fun depth => ?_, begins⟩
  rw [calm.run?_eq (by decide)]
  exact (run?_cons rfl).trans (reaches (depth + 1))

theorem Begins.ready {kind : GroupKind} {body : Text} (begins : Begins kind place body) : place.Ready body := by
  cases kind with
  | capturing =>
    obtain ⟨rfl, unmarked⟩ := begins
    exact unmarked
  | other =>
    obtain ⟨rfl, comment⟩ := begins
    exact comment
  | _ =>
    obtain rfl : place = .between false := begins
    trivial

theorem Begins.kind_eq {kind : GroupKind} {body : Text} (begins : Begins kind .marked body) : kind = .other := by
  cases kind with
  | other => rfl
  | capturing => cases begins.1
  | _ => cases begins

end Place

/-! ## Texts with something inserted -/

/-- A token is a reference only with a name that can be referred to. -/
theorem isReferable_of_scan {afterClose : Bool} {text next name : Text}
    (read : scan afterClose text = (.reference name, next)) : AliasTable.isReferable name = true := by
  rcases text with _ | ⟨c, rest⟩
  · cases read
  simp only [scan] at read
  split_ifs at read with backslash opening closing sign brace reference
  · cases rest <;> cases read
  · have opens := Place.opens_scanOpener rest
    rw [read] at opens
    cases opens
  · cases read
  · cases read
  · cases read
  · unfold scanReference at read
    split at read
    · cases read
    · rename_i taken
      obtain rfl := Token.reference.inj (Prod.mk.inj read).1
      rw [AliasTable.isReferable, ← taken, List.all_takeWhile, taken]
      rfl
  · cases read

theorem isAliasChar_of_scan {afterClose : Bool} {text next name : Text}
    (read : scan afterClose text = (.reference name, next)) : ∀ c ∈ name, isAliasChar c = true :=
  List.all_eq_true.mp (Bool.and_eq_true_iff.mp (isReferable_of_scan read)).2

theorem suffix_scanAll {afterClose : Bool} {text next : Text} {token : Token}
    (read : scan afterClose text = (token, next)) (more : token ≠ .endOfInput) (inside : token ≠ .closer) :
    scanAll false next <:+ scanAll afterClose text := by
  rw [scanAll_of_scan read more inside]
  exact List.suffix_cons _ _

theorem Spells.suffix_behind {means : Text → Part → Prop} {text after : Text} {body : Tree}
    (inner : Spells means false text body (')' :: after)) : scanAll true after <:+ scanAll false text := by
  obtain ⟨tokens, whole, -⟩ := inner.scanAll_eq
  rw [whole false, scanAll_closer]
  exact (List.suffix_cons _ _).trans (List.suffix_append _ _)

/-- Reading what is written keeps the depth. Where it is finished it comes to rest, or to where it started if
nothing is written. -/
def Place.Settles (place : Place) (depth : Nat) (written : Text) (finished nothing : Prop) : Prop :=
  ∃ last : Place, place.run? depth written = some (last, depth) ∧ (finished → last.Resting ∨ last = place ∧ nothing)

theorem Place.Settles.after {place middle : Place} {depth : Nat} {first second : Text}
    {finished nothing still : Prop} (reached : place.run? depth first = some (middle, depth))
    (resting : middle.Resting) (more : middle.Settles depth second finished nothing) :
    place.Settles depth (first ++ second) finished still := by
  obtain ⟨last, behind, ended⟩ := more
  refine ⟨last, (run?_append reached second).trans behind, fun done => .inl ?_⟩
  rcases ended done with rests | ⟨rfl, -⟩
  · exact rests
  · exact resting

/-- What settles behind an opener is closed by a closing parenthesis. -/
theorem Place.Settles.closed {place begin : Place} {depth : Nat} {opening inner : Text} {finished nothing : Prop}
    (opened : place.run? depth opening = some (begin, depth + 1)) (calm : begin.Calm)
    (settles : begin.Settles (depth + 1) inner finished nothing) (done : finished) :
    ∃ afterClose, place.run? depth (opening ++ (inner ++ [')'])) = some (.between afterClose, depth) := by
  obtain ⟨last, written, ended⟩ := settles
  have calm : last.Calm := by
    rcases ended done with resting | ⟨rfl, -⟩
    · exact resting.calm
    · exact calm
  obtain ⟨afterClose, closes⟩ := calm.step?_closer
  rw [run?_append opened, run?_append written]
  exact ⟨afterClose, run?_cons (closes depth)⟩

/-- What is written for a part leaves the groups around it alone, wherever it is inserted. -/
def Unroller.KeepsDepth (unroller : Unroller) (part : Part) : Prop :=
  ∀ (place : Place) (depth : Nat), place.Calm → (unroller.naming = false → place ≠ .marked) →
    ∃ last : Place, place.run? depth (unroller.expansionOfPart part) = some (last, depth) ∧ last.Resting

/-- What a reference is read as is the reference itself, or stands for a body and leaves the groups around it
alone. -/
def AliasTable.Encloses (table : AliasTable) (ceiling : UInt64) (name : Text) (part : Part) : Prop :=
  part = .plain ('@' :: name) ∨
    (∃ body, table.get? name = some body) ∧ (Unroller.ofTable table ceiling).KeepsDepth part

section Insertion

variable {table : AliasTable} {ceiling : UInt64} {means : Text → Part → Prop} {afterClose : Bool}
  {text rest : Text} {tree : Tree} {tokens : List Token} {place : Place}

/-- A text without quantifiers closes what it opens if all that is inserted into it does, and comes to rest
in front of more text, or where its plain text is finished. -/
theorem Spells.settles (spells : Spells means afterClose text tree rest)
    (whole : scanAll afterClose text <:+ tokens) (unquantified : ∀ raw, .quantifier raw ∉ tokens)
    (joins : table.Joins tokens)
    (inserted : ∀ name part, .reference name ∈ tokens → (∀ c ∈ name, isAliasChar c = true) → means name part →
      table.Encloses ceiling name part)
    (ready : place.Ready text)
    (apart : place = .marked → table.naming = false → ∀ name next, scan afterClose text = (.reference name, next) →
      table.get? name = none) (depth : Nat) :
    place.Settles depth ((Unroller.ofTable table ceiling).expansion tree)
      (rest ≠ [] ∨ ∀ run, .plain run ∈ tokens → Finished run) (text = rest) := by
  induction spells generalizing place depth with
  | atEnd => exact ⟨place, by rw [Unroller.expansion_nil]; rfl, fun _ => .inr ⟨rfl, rfl⟩⟩
  | atCloser => exact ⟨place, by rw [Unroller.expansion_nil]; rfl, fun _ => .inr ⟨rfl, rfl⟩⟩
  | @copied afterClose text next rest token tree read isText more ih =>
    obtain ⟨unfinished, unclosed, -⟩ := Token.isText_ne isText
    have here : token ∈ tokens := whole.subset (scanAll_of_scan read unfinished unclosed ▸ List.mem_cons_self ..)
    have later := (suffix_scanAll read unfinished unclosed).trans whole
    obtain ⟨last, reached, ended⟩ : ∃ last : Place, place.run? depth token.source = some (last, depth) ∧
        (next ≠ [] ∨ (∀ run, .plain run ∈ tokens → Finished run) → last.Loose) := by
      cases token with
      | escape escaped => exact ⟨_, ready.calm.run?_escape escaped, fun _ => .inl rfl⟩
      | plain run =>
        obtain ⟨last, reached, ended⟩ := ready.run?_plain (scan_of_no_quantifier read (by simp)) depth
        exact ⟨last, reached, fun done => ended (done.imp_right fun finished => finished run here)⟩
      | _ => exact absurd isText (by simp [Token.isText])
    rw [Unroller.expansion_join, Unroller.expansionOfPart_plain]
    rcases next with _ | ⟨c, behind⟩
    · -- the last token of the text may be unfinished
      cases more with
      | atEnd =>
        rw [Unroller.expansion_nil, List.append_nil]
        exact ⟨last, reached, fun done => .inl (ended done).resting⟩
      | copied read isText =>
        cases read
        cases isText
      | reference read => cases read
      | bare read => cases read
      | quantified read => cases read
    · have loose := ended (.inl (by simp))
      exact .after reached loose.resting
        (ih later (loose.ready _) (fun marked => (loose.resting.ne_marked marked).elim) depth)
  | @reference afterClose text next rest name part tree read found more ih =>
    have tokens_eq := scanAll_of_scan read (by simp) (by simp)
    have letters := isAliasChar_of_scan read
    have member : .reference name ∈ tokens := whole.subset (tokens_eq ▸ List.mem_cons_self ..)
    have later := (suffix_scanAll read (by simp) (by simp)).trans whole
    rw [Unroller.expansion_join]
    obtain ⟨middle, reached, resting, ready⟩ : ∃ middle : Place,
        place.run? depth ((Unroller.ofTable table ceiling).expansionOfPart part) = some (middle, depth) ∧
          middle.Resting ∧ middle.Ready next := by
      rcases inserted name part member letters found with rfl | ⟨⟨body, known⟩, keeps⟩
      · rw [Unroller.expansionOfPart_plain]
        exact ⟨_, ready.calm.run?_reference letters, trivial, trivial⟩
      · obtain ⟨middle, reached, resting⟩ := keeps place depth ready.calm fun off marked =>
          absurd (known.symm.trans (apart marked off name next read)) (by simp)
        refine ⟨middle, reached, resting, ?_⟩
        have docile := joins.behind name body _ (tokens_eq ▸ whole) known
        rw [flatMap_source_scanAll] at docile
        exact resting.ready docile
    exact .after reached resting (ih later ready (fun marked => (resting.ne_marked marked).elim) depth)
  | @bare afterClose text next after rest opening kind body tree read inner follows more ihBody ih =>
    have tokens_eq := scanAll_of_scan read (by simp) (by simp)
    have within := (suffix_scanAll read (by simp) (by simp)).trans whole
    have behind := inner.suffix_behind.trans within
    obtain ⟨begin, opened, begins⟩ := ready.calm.run?_opener read
    have apart (marked : begin = .marked) (off : table.naming = false) (name later : Text)
        (first : scan false next = (.reference name, later)) : table.get? name = none := by
      subst marked
      obtain rfl := begins.kind_eq
      rw [tokens_eq, scanAll_of_scan first (by simp) (by simp)] at whole
      exact joins.apart off opening name _ whole
    obtain ⟨afterClose, reached⟩ := Place.Settles.closed (opened depth) begins.ready.calm
      (ihBody within begins.ready apart (depth + 1)) (.inl (by simp))
    have resting : (Place.between afterClose).Resting := trivial
    have ready := resting.ready (docile_of_unquantified follows)
    rw [Unroller.expansion_cons, Unroller.expansionOfPart_group]
    exact .after reached resting (ih behind ready (fun marked => (resting.ne_marked marked).elim) depth)
  | @quantified afterClose text next after later rest opening raw kind body tree bounds read inner quantifier _ _ _ _ =>
    have within := (suffix_scanAll read (by simp) (by simp)).trans whole
    have behind := inner.suffix_behind.trans within
    rw [scanAll_of_scan quantifier (by simp) (by simp)] at behind
    exact absurd (behind.subset (List.mem_cons_self ..)) (unquantified raw)

/-- A body that keeps apart from the text around it leaves the groups around it alone. -/
theorem Spells.keepsDepth {name body : Text} (letters : ∀ c ∈ name, isAliasChar c = true)
    (inserts : table.Inserts body) (spells : Spells means false body tree [])
    (unquantified : ∀ raw, .quantifier raw ∉ scanAll false body) (joins : table.Joins (scanAll false body))
    (inserted : ∀ name part, .reference name ∈ scanAll false body → (∀ c ∈ name, isAliasChar c = true) →
      means name part → table.Encloses ceiling name part) :
    (Unroller.ofTable table ceiling).KeepsDepth (.reference name tree) := by
  intro place depth calm unmarked
  have settles {start : Place} (ready : start.Ready body) (unmarked : table.naming = false → start ≠ .marked) :=
    spells.settles (List.suffix_refl _) unquantified joins inserted ready
      fun marked off => absurd marked (unmarked off)
  cases naming : table.naming with
  | true =>
    have written : (Unroller.ofTable table ceiling).expansionOfPart (.reference name tree) =
        Unroller.namedOpening name ++ ((Unroller.ofTable table ceiling).expansion tree ++ [')']) := by
      simp [Unroller.expansionOfPart, Unroller.ofTable, naming]
    have start : (Place.between false).Ready body := trivial
    obtain ⟨afterClose, reached⟩ := Place.Settles.closed (calm.run?_named letters) start.calm
      (settles start (by simp) (depth + 1)) (.inr inserts.finished)
    rw [written]
    exact ⟨.between afterClose, reached, trivial⟩
  | false =>
    have written : (Unroller.ofTable table ceiling).expansionOfPart (.reference name tree) =
        (Unroller.ofTable table ceiling).expansion tree := by
      simp [Unroller.expansionOfPart, Unroller.ofTable, naming]
    have ready : place.Ready body := by
      rcases place with (_ | _) | _ | _ | _ | _ | _ | _ | _
      · trivial
      · exact inserts.docile naming
      · exact inserts.unmarked naming
      · exact absurd rfl (unmarked naming)
      · trivial
      all_goals exact calm.elim
    obtain ⟨last, reached, ended⟩ := settles ready unmarked depth
    have unmoved : ¬ (last = place ∧ body = []) := fun unmoved => inserts.nonempty naming unmoved.2
    rw [written]
    exact ⟨last, reached, (ended (.inr inserts.finished)).resolve_right unmoved⟩

/-- Whatever a reference is read as, in a pattern that fits its bodies, leaves the groups around it alone. -/
theorem AliasTable.Fits.keepsDepth {pattern name : Text} {path : AliasPath} {part : Part} {depth : Nat}
    (fits : table.Fits pattern)
    (unquantified : ∀ text, table.Reads pattern text → ∀ raw, .quantifier raw ∉ scanAll false text)
    (reads : table.Reads pattern text) (occurs : .reference name ∈ scanAll false text)
    (letters : ∀ c ∈ name, isAliasChar c = true) (means : Reader.MeansWithin table depth path name part) :
    table.Encloses ceiling name part := by
  induction depth generalizing path text name part with
  | zero =>
    cases known : table.replacement? name with
    | none => exact .inl ((Reader.meansWithin_of_unknown known).mp means)
    | some body => exact absurd means (Reader.not_meansWithin_zero known)
  | succ depth ih =>
    cases known : table.replacement? name with
    | none => exact .inl ((Reader.meansWithin_of_unknown known).mp means)
    | some body =>
      obtain ⟨-, tree, read, rfl⟩ := (Reader.meansWithin_succ known).mp means
      have found := AliasTable.get?_of_replacement? known
      have leads := reads.leads ⟨occurs, found⟩
      have further : table.Reads pattern body := .inr ⟨name, leads⟩
      have spells := Reader.answer_readWithin_eq_ok_iff.mp read
      exact .inr ⟨⟨body, found⟩, spells.keepsDepth letters (fits.bodies name body leads)
        (unquantified body further) (fits.texts body further) fun _ _ => ih further⟩

end Insertion

/-- Where neither the pattern nor a body that it leads to has a quantifier, and they fit each other, every
closing parenthesis of the unrolled pattern closes a group of it, and every group is closed. -/
theorem unrolled_balanced {table : AliasTable} {ceiling : UInt64} {pattern output : Text}
    (fits : table.Fits pattern)
    (unquantified : ∀ text, table.Reads pattern text → ∀ raw, .quantifier raw ∉ scanAll false text)
    (unrolled : unrollPattern table ceiling pattern = .ok output) : Balanced (scanAll false output) := by
  obtain ⟨tree, read, written⟩ := bind_eq_ok.mp unrolled
  obtain rfl := Unroller.eq_expansion_of_emit tree written
  have spells := Tree.ofPattern_eq_ok_iff.mp read
  have start : (Place.between false).Ready pattern := trivial
  obtain ⟨last, reached, -⟩ := spells.settles (List.suffix_refl _) (unquantified pattern .self)
    (fits.texts pattern .self) (fun _ _ => fits.keepsDepth unquantified .self) start (by simp) 0
  rw [Balanced, nesting?_scanAll, reached]
  rfl

/-- Aliases for a name and for two of them with a dot in between. -/
def hosts : AliasTable := ⟨[("d".toList, "(@n\\.@n)".toList), ("n".toList, "[a-z]+".toList)], true, false⟩

theorem docile_of_scan {text raw later : Text} {bounds : Option Repetition}
    (read : scan true text = (.quantifier raw, later)) (stated : Repetition.ofQuantifier raw 0 = .ok bounds) :
    Docile text := by
  intro raw' later' read'
  obtain rfl := Token.quantifier.inj (Prod.mk.inj (read.symm.trans read')).1
  exact ⟨bounds, stated⟩

/-- A plus sign behind a reference, and a class that is not closed at the end. -/
theorem unrolled_balanced_hosts :
    hosts.Fits "(?:@d+)[(".toList ∧
    (∀ text, hosts.Reads "(?:@d+)[(".toList text → ∀ raw, .quantifier raw ∉ scanAll false text) ∧
    unrollPattern hosts 1 "(?:@d+)[(".toList = .ok "(?:([a-z]+\\.[a-z]+)+)[(".toList ∧
    Balanced (scanAll false "(?:([a-z]+\\.[a-z]+)+)[(".toList) := by
  have whole : scanAll false "(?:@d+)[(".toList =
      [.opener .nonCapturing "(?:".toList, .reference ['d'], .plain ['+'], .closer, .plain "[(".toList,
        .endOfInput] := by
    decide +kernel
  have pair : scanAll false "(@n\\.@n)".toList =
      [.opener .capturing ['('], .reference ['n'], .escape '.', .reference ['n'], .closer, .endOfInput] := by
    decide +kernel
  have single : scanAll false "[a-z]+".toList = [.plain "[a-z]+".toList, .endOfInput] := by decide +kernel
  have bodies {body : Text} (member : body ∈ hosts.entries.map Prod.snd) :
      body = "(@n\\.@n)".toList ∨ body = "[a-z]+".toList := by
    simpa [hosts] using member
  have texts {text : Text} (reads : hosts.Reads "(?:@d+)[(".toList text) : text = "(?:@d+)[(".toList ∨
      text = "(@n\\.@n)".toList ∨ text = "[a-z]+".toList :=
    reads.mem.imp_right bodies
  have plus : Docile "+)[(".toList := docile_of_scan rfl rfl
  have dot : Docile "\\.@n)".toList := docile_of_unquantified (by decide)
  have closer : Docile ")".toList := docile_of_unquantified (by decide)
  have fits : hosts.Fits "(?:@d+)[(".toList := by
    refine ⟨fun text reads => ⟨fun name _ after suffix _ => ?_, fun _ _ _ _ suffix => ?_⟩, fun name body leads => ?_⟩
    · rcases texts reads with rfl | rfl | rfl
      · rw [whole] at suffix
        obtain ⟨-, rfl⟩ : name = ['d'] ∧ after = [.plain ['+'], .closer, .plain "[(".toList, .endOfInput] := by
          simpa [List.suffix_cons_iff] using suffix
        exact plus
      · rw [pair] at suffix
        have behind : name = ['n'] ∧ after = [.escape '.', .reference ['n'], .closer, .endOfInput] ∨
            name = ['n'] ∧ after = [.closer, .endOfInput] := by
          simpa [List.suffix_cons_iff] using suffix
        rcases behind with ⟨-, rfl⟩ | ⟨-, rfl⟩
        · exact dot
        · exact closer
      · rw [single] at suffix
        simp [List.suffix_cons_iff] at suffix
    · rcases texts reads with rfl | rfl | rfl
      · rw [whole] at suffix
        simp [List.suffix_cons_iff] at suffix
      · rw [pair] at suffix
        simp [List.suffix_cons_iff] at suffix
      · rw [single] at suffix
        simp [List.suffix_cons_iff] at suffix
    · rcases bodies leads.mem with rfl | rfl
      · refine ⟨fun run member => ?_, by simp, by simp, fun _ => docile_of_unquantified (by decide)⟩
        rw [pair] at member
        simp at member
      · refine ⟨fun run member => ?_, by simp, by simp, fun _ => docile_of_unquantified (by decide)⟩
        rw [single] at member
        obtain rfl : run = "[a-z]+".toList := by simpa using member
        exact (by decide +kernel : scan false ("[a-z]+".toList ++ [')']) = (.plain "[a-z]+".toList, [')']))
  have unquantified (text : Text) (reads : hosts.Reads "(?:@d+)[(".toList text) (raw : Text) :
      .quantifier raw ∉ scanAll false text := by
    rcases texts reads with rfl | rfl | rfl
    · rw [whole]
      simp
    · rw [pair]
      simp
    · rw [single]
      simp
  have unrolled : unrollPattern hosts 1 "(?:@d+)[(".toList = .ok "(?:([a-z]+\\.[a-z]+)+)[(".toList := by
    decide +kernel
  exact ⟨fits, unquantified, unrolled, unrolled_balanced fits unquantified unrolled⟩

/-! ## Tokens that form across the ends of a body -/

/-- A table with one alias. -/
def loneAlias (body : Text) (naming : Bool) : AliasTable := ⟨[(['a'], body)], true, naming⟩

/-- Neither the pattern nor the body has a quantifier, and yet the unrolled pattern is not balanced. -/
def Unbalances (body : Text) (naming : Bool) (pattern output : Text) : Prop :=
  (∀ text, (loneAlias body naming).Reads pattern text → ∀ raw, .quantifier raw ∉ scanAll false text) ∧
    unrollPattern (loneAlias body naming) 1 pattern = .ok output ∧ ¬ Balanced (scanAll false output)

theorem Unbalances.of_tokens {body pattern output : Text} {naming : Bool}
    (none_stated : ∀ text ∈ [pattern, body], ∀ token ∈ scanAll false text, ¬ token matches .quantifier _)
    (unrolled : unrollPattern (loneAlias body naming) 1 pattern = .ok output)
    (unbalanced : ¬ Balanced (scanAll false output)) : Unbalances body naming pattern output := by
  refine ⟨fun text reads raw member => ?_, unrolled, unbalanced⟩
  have listed : text ∈ [pattern, body] := by
    rcases reads.mem with rfl | inserted
    · exact List.mem_cons_self ..
    · exact List.mem_cons_of_mem _ inserted
  exact none_stated text listed _ member rfl

/-- One case for each way to join: a backslash before the parenthesis that closes a named group, a class that is
not closed, braces behind a body and braces that start one, a body that marks a parenthesis and an empty one,
and a number sign behind an opener that nothing else spells. -/
theorem unrolled_unbalanced :
    Unbalances "\\".toList true "@a".toList "(?<a>\\)".toList ∧
    Unbalances "[".toList false "(@a)".toList "([)".toList ∧
    Unbalances "(x)".toList false "(@a\x7b)".toList "((x)\x7b)".toList ∧
    Unbalances "\x7b".toList false "((x)@a)".toList "((x)\x7b)".toList ∧
    Unbalances "?#".toList false "(@a(x))".toList "(?#(x))".toList ∧
    Unbalances "".toList false "(@a?#(x))".toList "(?#(x))".toList ∧
    Unbalances "#".toList false "(?@a(x))".toList "(?#(x))".toList := by
  refine ⟨?_, ?_, ?_, ?_, ?_, ?_, ?_⟩ <;>
    exact .of_tokens (by decide +kernel) (by decide +kernel) (by decide +kernel)

end GroupUnroll
