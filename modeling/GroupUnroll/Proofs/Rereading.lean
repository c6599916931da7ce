import GroupUnroll.Proofs.RoundTrip
import GroupUnroll.Proofs.Unrolled

/-! # Reading unrolled text

Unrolled text is read as the unrolled tree. What is written for a group starts with a copy of it, so the
text that a token was read before and the text that is written after it are alike; what follows a
copy is another copy, a question mark or text that no quantifier starts, so no copy gets bounds.

Both fail for a group that is written no times and for a group whose quantifier has another one behind it:
there the text before the group, or its last copy, meets text that it did not stand before. `Unstacked`
rules these two out.
-/

namespace GroupUnroll

/-- Every quantifier with bounds writes a copy, and no character that starts a quantifier follows it. -/
def Unstacked (ceiling : UInt64) (tokens : List Token) : Prop :=
  ∀ before raw after repetition position, tokens = before ++ .quantifier raw :: after →
    Repetition.ofQuantifier raw position = .ok (some repetition) →
      1 ≤ max repetition.min.toNat (repetition.max.orCeiling ceiling).toNat ∧
        startsQuantifier (after.flatMap Token.source) = false

/-- What holds at each quantifier with bounds, of the bounds and the text behind it. -/
def AtBounds (holds : Repetition → Text → Prop) (tokens : List Token) : Prop :=
  ∀ before raw after repetition position, tokens = before ++ .quantifier raw :: after →
    Repetition.ofQuantifier raw position = .ok (some repetition) →
      holds repetition (after.flatMap Token.source)

namespace AtBounds

variable {holds : Repetition → Text → Prop} {tokens after : List Token} {token : Token} {text rest : Text}

theorem mono {more : Repetition → Text → Prop} (wider : ∀ repetition text, holds repetition text →
    more repetition text) (all : AtBounds holds tokens) : AtBounds more tokens :=
  fun before raw after repetition position split stated =>
    wider _ _ (all before raw after repetition position split stated)

theorem of_append (before : List Token) (all : AtBounds holds (before ++ tokens)) : AtBounds holds tokens := by
  intro front raw after repetition position split stated
  refine all (before ++ front) raw after repetition position ?_ stated
  rw [split, List.append_assoc]

theorem nil : AtBounds holds [] := by
  intro before raw after repetition position split
  exact absurd split (by simp)

theorem other (other : ∀ raw, token ≠ .quantifier raw) (more : AtBounds holds after) :
    AtBounds holds (token :: after) := by
  intro before raw later repetition position split stated
  rcases before with _ | ⟨_, before⟩
  · exact absurd (List.cons.inj split).1 (other raw)
  · exact more before raw later repetition position (List.cons.inj split).2 stated

theorem quantifier {raw : Text} {repetition : Repetition}
    (stated : Repetition.ofQuantifier raw 0 = .ok (some repetition))
    (here : holds repetition (after.flatMap Token.source)) (more : AtBounds holds after) :
    AtBounds holds (.quantifier raw :: after) := by
  intro before other later found position split stated'
  rcases before with _ | ⟨_, before⟩
  · obtain ⟨same, rfl⟩ := List.cons.inj split
    obtain rfl := Token.quantifier.inj same
    have moved := Repetition.ofQuantifier_position stated' 0
    rw [stated] at moved
    obtain rfl := Option.some.inj (Except.ok.inj moved)
    exact here
  · exact more before other later found position (List.cons.inj split).2 stated'

theorem unbounded {raw : Text} (stated : ∀ position, Repetition.ofQuantifier raw position = .ok none)
    (more : AtBounds holds after) : AtBounds holds (.quantifier raw :: after) := by
  intro before other later repetition position split stated'
  rcases before with _ | ⟨_, before⟩
  · obtain rfl := Token.quantifier.inj (List.cons.inj split).1
    exact absurd ((stated position).symm.trans stated') (by simp)
  · exact more before other later repetition position (List.cons.inj split).2 stated'

/-- What holds of the tokens of a text holds of those behind its first one. -/
theorem next {afterClose : Bool} (all : AtBounds holds (scanAll afterClose text))
    (read : scan afterClose text = (token, rest)) (more : token ≠ .endOfInput) (inside : token ≠ .closer) :
    AtBounds holds (scanAll false rest) := by
  rw [scanAll_of_scan read more inside] at all
  exact all.of_append [token]

/-- What holds of the tokens of a text holds of those behind the group whose body starts it. -/
theorem behind {means : Text → Part → Prop} {body : Tree}
    (all : AtBounds holds (scanAll false text)) (inner : Spells means false text body (')' :: rest)) :
    AtBounds holds (scanAll true rest) := by
  obtain ⟨tokens, whole, -⟩ := inner.scanAll_eq
  rw [whole false, scanAll_closer] at all
  exact (all.of_append tokens).of_append [.closer]

end AtBounds

/-- Every quantifier with bounds writes a copy. -/
def Writing (ceiling : UInt64) (tokens : List Token) : Prop :=
  AtBounds (fun repetition _ => 1 ≤ max repetition.min.toNat (repetition.max.orCeiling ceiling).toNat) tokens

/-- Every quantifier with bounds writes a copy, and the text behind it is none of `stops` unless it writes an
optional copy. -/
def Apart (ceiling : UInt64) (stops : Text → Bool) (tokens : List Token) : Prop :=
  AtBounds (fun repetition text =>
    1 ≤ max repetition.min.toNat (repetition.max.orCeiling ceiling).toNat ∧
      ((repetition.max.orCeiling ceiling).toNat ≤ repetition.min.toNat → stops text = false)) tokens

theorem Apart.writing {ceiling : UInt64} {stops : Text → Bool} {tokens : List Token}
    (apart : Apart ceiling stops tokens) : Writing ceiling tokens :=
  AtBounds.mono (fun _ _ here => here.1) apart

theorem unstacked_iff {ceiling : UInt64} {tokens : List Token} : Unstacked ceiling tokens ↔
    AtBounds (fun repetition text =>
      1 ≤ max repetition.min.toNat (repetition.max.orCeiling ceiling).toNat ∧
        startsQuantifier text = false) tokens := .rfl

theorem Unstacked.apart {ceiling : UInt64} {tokens : List Token} (unstacked : Unstacked ceiling tokens) :
    Apart ceiling startsQuantifier tokens :=
  (unstacked_iff.mp unstacked).mono fun _ _ here => ⟨here.1, fun _ => here.2⟩

theorem unstacked_nil {ceiling : UInt64} : Unstacked ceiling [] := unstacked_iff.mpr .nil

theorem unstacked_other {ceiling : UInt64} {token : Token} {after : List Token}
    (other : ∀ raw, token ≠ .quantifier raw) (more : Unstacked ceiling after) :
    Unstacked ceiling (token :: after) :=
  unstacked_iff.mpr (.other other (unstacked_iff.mp more))

theorem unstacked_quantifier {ceiling : UInt64} {raw : Text} {repetition : Repetition} {after : List Token}
    (stated : Repetition.ofQuantifier raw 0 = .ok (some repetition))
    (written : 1 ≤ max repetition.min.toNat (repetition.max.orCeiling ceiling).toNat)
    (apart : startsQuantifier (after.flatMap Token.source) = false) (more : Unstacked ceiling after) :
    Unstacked ceiling (.quantifier raw :: after) :=
  unstacked_iff.mpr (.quantifier stated ⟨written, apart⟩ (unstacked_iff.mp more))

theorem flatMap_source_scanAll (afterClose : Bool) (text : Text) :
    (scanAll afterClose text).flatMap Token.source = text := by
  fun_induction scanAll afterClose text with
  | case1 => rfl
  | case2 afterClose c rest ih => rw [List.flatMap_cons, ih, scan_source]

/-! ## Plain text in front -/

theorem scan_plain {c : Char} (plain : endsPlainText c = false) (rest : Text) :
    scan false (c :: rest) =
      (.plain (Text.before (c :: rest) (dropPlainText (c :: rest))), dropPlainText (c :: rest)) := by
  simp only [endsPlainText, Bool.or_eq_false_iff, beq_eq_false_iff_ne] at plain
  obtain ⟨⟨⟨opening, closing⟩, backslash⟩, reference⟩ := plain
  simp [scan, opening, closing, backslash, reference]

theorem dropPlainText_of_ends {c : Char} (ends : endsPlainText c = true) (rest : Text) :
    dropPlainText (c :: rest) = c :: rest := by
  rw [dropPlainText, if_pos ends]

/-- Text that no plain text starts with stays apart from plain text before it. -/
theorem dropPlainText_cases (text : Text) :
    dropPlainText text = text ∨ ∃ c rest, text = c :: rest ∧ endsPlainText c = false := by
  rcases text with _ | ⟨c, rest⟩
  · exact .inl (by rw [dropPlainText])
  · cases ends : endsPlainText c with
    | true => exact .inl (dropPlainText_of_ends ends rest)
    | false => exact .inr ⟨c, rest, rfl, ends⟩

/-- Characters that neither end plain text nor open a class are part of the plain text before them. -/
theorem dropPlainText_plain {taken : Text} (plain : ∀ c ∈ taken, endsPlainText c = false ∧ c ≠ '[') (rest : Text) :
    dropPlainText (taken ++ rest) = dropPlainText rest := by
  induction taken with
  | nil => rfl
  | cons c taken ih =>
    obtain ⟨goesOn, bracket⟩ := plain c (List.mem_cons_self ..)
    rw [List.cons_append, dropPlainText, goesOn, if_neg (by simp), if_neg bracket]
    exact ih fun c member => plain c (List.mem_cons_of_mem _ member)

namespace Spells

variable {means : Text → Part → Prop} {text rest taken : Text} {tree : Tree}

/-- Plain text joins the plain text behind it. -/
theorem behind_plain (nonempty : taken ≠ []) (plain : ∀ c ∈ taken, endsPlainText c = false ∧ c ≠ '[')
    (spells : Spells means false text tree rest) :
    Spells means false (taken ++ text) (Tree.join (.plain taken) tree) rest := by
  have whole : scan false (taken ++ text) =
      (.plain (taken ++ Text.before text (dropPlainText text)), dropPlainText text) := by
    obtain ⟨c, more, rfl⟩ := List.exists_cons_of_ne_nil nonempty
    have dropped := dropPlainText_plain plain text
    have run := scan_plain (plain c (List.mem_cons_self ..)).1 (more ++ text)
    rw [← List.cons_append, dropped] at run
    have suffix := dropPlainText_suffix text
    have split : Text.before (c :: more ++ text) (dropPlainText text) ++ dropPlainText text =
        c :: more ++ Text.before text (dropPlainText text) ++ dropPlainText text := by
      rw [Text.before_append (suffix.trans (List.suffix_append ..)), List.append_assoc, Text.before_append suffix]
    rw [run, List.append_cancel_right split]
  rcases dropPlainText_cases text with apart | ⟨c, tail, rfl, plain⟩
  · rw [apart, Text.before_self, List.append_nil] at whole
    exact .copied whole rfl spells
  · have run := scan_plain plain tail
    cases spells with
    | atCloser => exact absurd plain (by decide)
    | copied read _ more =>
      obtain ⟨rfl, rfl⟩ := Prod.mk.inj (run.symm.trans read)
      have joined := Spells.copied whole rfl more
      rwa [Tree.join_plain_plain]
    | reference read => exact absurd (run.symm.trans read) (by simp)
    | bare read => exact absurd (run.symm.trans read) (by simp)
    | quantified read => exact absurd (run.symm.trans read) (by simp)

/-- A question mark joins the plain text behind it, wherever it stands. -/
theorem mark (spells : Spells means false text tree rest) (afterClose : Bool) :
    Spells means afterClose ('?' :: text) (Tree.join (.plain ['?']) tree) rest := by
  have marked : Spells means false (['?'] ++ text) (Tree.join (.plain ['?']) tree) rest :=
    spells.behind_plain (by simp) (by simp [endsPlainText])
  exact marked.of_unquantified (by simp [startsQuantifier]) afterClose

end Spells

/-! ## Copies -/

/-- What may stand behind a copy of a group: a text that no quantifier starts, and what it spells. -/
def Continues (means : Text → Part → Prop) (text : Text) (tree : Tree) (rest : Text) : Prop :=
  startsQuantifier text = false ∧ Spells means true text tree rest

/-- The opener is read as such before `inner`, which spells the body before every closing parenthesis. -/
structure Encloses (means : Text → Part → Prop) (kind : GroupKind) (opening inner : Text) (body : Tree) :
    Prop where
  opens : ∀ (afterClose : Bool) (later : Text),
    scan afterClose (opening ++ (inner ++ ')' :: later)) = (.opener kind opening, inner ++ ')' :: later)
  closes : ∀ later, Spells means false (inner ++ ')' :: later) body (')' :: later)

theorem startsQuantifier_of_opener {afterClose : Bool} {text next opening : Text} {kind : GroupKind}
    (read : scan afterClose text = (.opener kind opening, next)) : startsQuantifier text = false := by
  rcases text with _ | ⟨c, tail⟩
  · rfl
  rw [Bool.eq_false_iff]
  intro starts
  have token := congrArg Prod.fst read
  rcases startsQuantifier_cons.mp starts with rfl | rfl | rfl <;>
    cases afterClose <;> simp [scan] at token

section Copies

variable {means : Text → Part → Prop} {kind : GroupKind} {opening inner text rest : Text}
  {body tree : Tree}

/-- Behind a question mark nothing is a quantifier. -/
theorem Continues.mark (spells : Spells means false text tree rest) :
    Continues means ('?' :: text) (Tree.join (.plain ['?']) tree) rest :=
  ⟨by simp [startsQuantifier], spells.mark true⟩

theorem Continues.unfollowed (continues : Continues means text tree rest) :
    Spells means false text tree rest :=
  continues.2.of_unquantified continues.1 false

namespace Encloses

theorem copy (encloses : Encloses means kind opening inner body)
    (continues : Continues means text tree rest) :
    Continues means ((opening ++ (inner ++ [')'])) ++ text) (.group kind opening body none :: tree) rest := by
  have opened := encloses.opens true text
  have whole : (opening ++ (inner ++ [')'])) ++ text = opening ++ (inner ++ ')' :: text) := by simp
  rw [whole]
  exact ⟨startsQuantifier_of_opener opened, .bare opened (encloses.closes text) continues.1 continues.2⟩

theorem mandatory (encloses : Encloses means kind opening inner body)
    (continues : Continues means text tree rest) (count : Nat) :
    Continues means ((List.replicate count (opening ++ (inner ++ [')']))).flatten ++ text)
      ((List.replicate count (.group kind opening body none)).foldr Tree.join tree) rest := by
  induction count with
  | zero => exact continues
  | succ count ih =>
    rw [List.replicate_succ, List.flatten_cons, List.append_assoc, List.replicate_succ, List.foldr_cons]
    exact encloses.copy ih

/-- What is behind the last optional copy follows its question mark. -/
theorem optional (encloses : Encloses means kind opening inner body)
    (spells : Spells means false text tree rest) (count : Nat) :
    Continues means ((List.replicate (count + 1) ((opening ++ (inner ++ [')'])) ++ ['?'])).flatten ++ text)
      ((List.replicate (count + 1) [.group kind opening body none, .plain ['?']]).flatten.foldr Tree.join tree)
      rest := by
  induction count with
  | zero =>
    rw [List.replicate_one, List.flatten_singleton, List.append_assoc, List.replicate_one,
      List.flatten_singleton]
    exact encloses.copy (.mark spells)
  | succ count ih =>
    rw [List.replicate_succ (n := count + 1), List.flatten_cons, List.append_assoc, List.append_assoc,
      List.replicate_succ (n := count + 1), List.flatten_cons, List.foldr_append]
    exact encloses.copy (.mark ih.unfollowed)

/-- The copies of a group spell the parts it is unrolled to. -/
theorem repeated (encloses : Encloses means kind opening inner body)
    (spells : Spells means false text tree rest) (unroller : Unroller) {repetition : Repetition}
    (apart : (repetition.max.orCeiling unroller.ceiling).toNat ≤ repetition.min.toNat →
      startsQuantifier text = false) :
    Continues means (unroller.repeated (opening ++ (inner ++ [')'])) (some repetition) ++ text)
      ((Part.repeated unroller.ceiling (.group kind opening body none) (some repetition)).foldr Tree.join tree)
      rest := by
  rw [Unroller.repeated, List.append_assoc, Part.repeated, List.foldr_append]
  apply encloses.mandatory
  cases counted : (repetition.optionalCount unroller.ceiling).toNat with
  | zero =>
    have unquantified : startsQuantifier text = false := by
      apply apart
      unfold Repetition.optionalCount at counted
      omega
    exact ⟨unquantified, spells.of_unquantified unquantified true⟩
  | succ count => exact encloses.optional spells count

/-- Braces that state no bounds stay text behind the group. -/
theorem unbounded (encloses : Encloses means kind opening inner body) (afterClose : Bool) {raw : Text}
    (quantifier : scan true (raw ++ text) = (.quantifier raw, text))
    (stated : ∀ position, Repetition.ofQuantifier raw position = .ok none)
    (spells : Spells means false text tree rest) :
    Spells means afterClose ((opening ++ (inner ++ [')'])) ++ (raw ++ text))
      (.group kind opening body none :: Tree.join (.plain raw) tree) rest := by
  have opened := encloses.opens afterClose (raw ++ text)
  have whole : (opening ++ (inner ++ [')'])) ++ (raw ++ text) = opening ++ (inner ++ ')' :: (raw ++ text)) := by
    simp
  rw [whole]
  exact .quantified opened (encloses.closes _) quantifier stated spells

end Encloses

end Copies

theorem Unroller.expansion_join {unroller : Unroller} (part : Part) (tree : Tree) :
    unroller.expansion (Tree.join part tree) = unroller.expansionOfPart part ++ unroller.expansion tree := by
  unfold Tree.join
  split <;> simp

/-! ## Unrolled text -/

namespace Spells

variable {unroller : Unroller} {afterClose : Bool} {text rest other : Text} {tree : Tree}

/-- The text before a group meets the same text when the group is written at least once. -/
theorem alike_copies {kind : GroupKind} {opening next inner copies : Text}
    (read : scan afterClose text = (.opener kind opening, next))
    (inside : ∀ later, Text.Alike next (inner ++ ')' :: later))
    (starts : ∃ more, copies = (opening ++ (inner ++ [')'])) ++ more) (tail : Text) :
    Text.Alike text (copies ++ tail) := by
  obtain ⟨more, rfl⟩ := starts
  obtain rfl := source_append_of_scan read
  have whole : (opening ++ (inner ++ [')'])) ++ more ++ tail = opening ++ (inner ++ ')' :: (more ++ tail)) := by
    simp
  rw [whole]
  exact (inside (more ++ tail)).append opening

/-- What a tree was read from and its expansion are alike if they are before rests that are. -/
theorem alike_expansion (spells : Spells Tree.Verbatim afterClose text tree rest)
    (writing : Writing unroller.ceiling (scanAll afterClose text)) (alike : Text.Alike rest other) :
    Text.Alike text (unroller.expansion tree ++ other) := by
  induction spells generalizing other with
  | atEnd =>
    rw [alike.eq_nil, Unroller.expansion_nil]
    exact .refl _
  | atCloser =>
    rw [Unroller.expansion_nil]
    exact alike
  | @copied _ _ _ _ token tree read isText _ ih =>
    obtain ⟨more, inside, -⟩ := Token.isText_ne isText
    have same := ih (writing.next read more inside) alike
    obtain rfl := source_append_of_scan read
    rw [Unroller.expansion_join, Unroller.expansionOfPart_plain, List.append_assoc]
    exact same.append _
  | @reference _ _ _ _ name part tree read found _ ih =>
    obtain rfl : part = .plain ('@' :: name) := found
    have same := ih (writing.next read (by simp) (by simp)) alike
    obtain rfl := source_append_of_scan read
    rw [Unroller.expansion_join, Unroller.expansionOfPart_plain, List.append_assoc]
    exact same.append _
  | @bare _ _ _ after _ _ _ _ _ read _ _ _ ihBody _ =>
    have inside := writing.next read (by simp) (by simp)
    have body (later : Text) := ihBody inside (Text.alike_closer after later)
    rw [Unroller.expansion_cons, Unroller.expansionOfPart_group, List.append_assoc]
    exact alike_copies read body ⟨[], (List.append_nil _).symm⟩ _
  | @quantified _ _ _ after _ _ _ raw _ _ _ bounds read inner quantifier stated _ ihBody _ =>
    have inside := writing.next read (by simp) (by simp)
    have body (later : Text) := ihBody inside (Text.alike_closer after later)
    cases bounds with
    | some repetition =>
      have behind := inside.behind inner
      rw [scanAll_of_scan quantifier (by simp) (by simp)] at behind
      have written := behind [] raw _ repetition 0 rfl (stated 0)
      rw [Tree.quantify, Unroller.expansion_cons, Unroller.expansionOfPart_group, List.append_assoc]
      exact alike_copies read body (Unroller.repeated_eq_append _ written) _
    | none =>
      rw [Tree.quantify, Unroller.expansion_cons, Unroller.expansionOfPart_group, List.append_assoc]
      exact alike_copies read body ⟨[], (List.append_nil _).symm⟩ _

/-- The copies and the body of a group whose body is read again. -/
theorem encloses_expansion {kind : GroupKind} {opening next after : Text} {body : Tree}
    (read : scan afterClose text = (.opener kind opening, next))
    (inner : Spells Tree.Verbatim false next body (')' :: after))
    (writing : Writing unroller.ceiling (scanAll afterClose text))
    (again : ∀ later, Spells Tree.Verbatim false (unroller.expansion body ++ ')' :: later)
      (Tree.unrolled unroller.ceiling body) (')' :: later)) :
    Encloses Tree.Verbatim kind opening (unroller.expansion body) (Tree.unrolled unroller.ceiling body) := by
  refine ⟨fun follows later => ?_, again⟩
  have inside := writing.next read (by simp) (by simp)
  have opened := scan_alike read (by simp) (inner.alike_expansion inside (Text.alike_closer after later))
  rw [← opened]
  exact scan_unquantified (startsQuantifier_of_opener opened) follows afterClose

/-- The expansion of a tree spells the unrolled tree before every rest alike to the one the tree was
read before. -/
theorem spells_expansion (spells : Spells Tree.Verbatim afterClose text tree rest)
    (apart : Apart unroller.ceiling startsQuantifier (scanAll afterClose text))
    (alike : Text.Alike rest other) :
    Spells Tree.Verbatim afterClose (unroller.expansion tree ++ other)
      (Tree.unrolled unroller.ceiling tree) other := by
  induction spells generalizing other with
  | atEnd =>
    rw [alike.eq_nil, Unroller.expansion_nil]
    exact .atEnd
  | atCloser =>
    obtain ⟨tail, rfl⟩ := alike.eq_cons
    rw [Unroller.expansion_nil]
    exact .atCloser
  | @copied _ _ _ _ token tree read isText more ih =>
    obtain ⟨unfinished, unclosed, -⟩ := Token.isText_ne isText
    have behind := apart.next read unfinished unclosed
    have again := scan_alike read (Token.isText_ne_quantifier isText)
      (more.alike_expansion (Apart.writing behind) alike)
    rw [Unroller.expansion_join, Unroller.expansionOfPart_plain, List.append_assoc, Tree.unrolled_join_plain]
    exact .copied again isText (ih behind alike)
  | @reference _ _ _ _ name part tree read found more ih =>
    obtain rfl : part = .plain ('@' :: name) := found
    have behind := apart.next read (by simp) (by simp)
    have again := scan_alike read (by simp) (more.alike_expansion (Apart.writing behind) alike)
    rw [Unroller.expansion_join, Unroller.expansionOfPart_plain, List.append_assoc, Tree.unrolled_join_plain]
    exact .reference again rfl (ih behind alike)
  | @bare follows _ _ after _ opening kind _ tree read inner unquantified more ihBody ih =>
    have inside := apart.next read (by simp) (by simp)
    have behind := inside.behind inner
    have encloses := encloses_expansion read inner apart.writing fun later =>
      ihBody inside (Text.alike_closer after later)
    have same := more.alike_expansion (Apart.writing behind) alike
    have continues : Continues Tree.Verbatim (unroller.expansion tree ++ other)
        (Tree.unrolled unroller.ceiling tree) other := ⟨same.startsQuantifier_eq ▸ unquantified, ih behind alike⟩
    obtain ⟨first, whole⟩ := encloses.copy continues
    rw [Unroller.expansion_cons, Unroller.expansionOfPart_group, List.append_assoc, Tree.unrolled_group]
    exact whole.of_unquantified first follows
  | @quantified follows _ _ after _ _ opening raw kind _ tree bounds read inner quantifier stated more
      ihBody ih =>
    have inside := apart.next read (by simp) (by simp)
    have behind := inside.behind inner
    have encloses := encloses_expansion read inner apart.writing fun later =>
      ihBody inside (Text.alike_closer after later)
    have later := behind.next quantifier (by simp) (by simp)
    have same := more.alike_expansion (Apart.writing later) alike
    have spells := ih later alike
    cases bounds with
    | some repetition =>
      -- nothing behind the last copy gives it bounds
      rw [scanAll_of_scan quantifier (by simp) (by simp)] at behind
      obtain ⟨-, unquantified⟩ := behind [] raw _ repetition 0 rfl (stated 0)
      rw [flatMap_source_scanAll, same.startsQuantifier_eq] at unquantified
      obtain ⟨first, whole⟩ := encloses.repeated spells unroller unquantified
      rw [Tree.quantify, Unroller.expansion_cons, Unroller.expansionOfPart_group, List.append_assoc,
        Tree.unrolled_group]
      exact whole.of_unquantified first follows
    | none =>
      -- braces without bounds are text that stays behind the group
      obtain rfl := source_append_of_scan quantifier
      have again := Repetition.scan_append_of_ofQuantifier quantifier (stated 0)
      rw [Tree.quantify, Unroller.expansion_cons, Unroller.expansionOfPart_group, List.append_assoc,
        Tree.unrolled_group, Unroller.expansion_join, Unroller.expansionOfPart_plain, List.append_assoc,
        Tree.unrolled_join_plain]
      exact encloses.unbounded follows (again _) stated spells

theorem expanded (spells : Spells Tree.Verbatim afterClose text tree rest)
    (unstacked : Unstacked unroller.ceiling (scanAll afterClose text)) (alike : Text.Alike rest other) :
    Spells Tree.Verbatim afterClose (unroller.expansion tree ++ other)
        (Tree.unrolled unroller.ceiling tree) other ∧
      Text.Alike text (unroller.expansion tree ++ other) :=
  ⟨spells.spells_expansion unstacked.apart alike, spells.alike_expansion unstacked.apart.writing alike⟩

end Spells

/-- With references left alone, unrolled text is read as the unrolled tree, in which no group has bounds,
and unrolling it again under any ceiling changes nothing. -/
theorem unrolled_reads_back {table : AliasTable} {ceiling : UInt64} {pattern output : Text}
    (off : table.replacing = false) (unstacked : Unstacked ceiling (scanAll false pattern))
    (unrolled : unrollPattern table ceiling pattern = .ok output) :
    ∃ tree, Tree.ofPattern table pattern = .ok tree ∧
      Tree.ofPattern table output = .ok (Tree.unrolled ceiling tree) ∧
      (Tree.unrolled ceiling tree).Settled ∧
      ∀ other, unrollPattern table other output = .ok output := by
  obtain ⟨tree, read, written⟩ := bind_eq_ok.mp unrolled
  obtain rfl := Unroller.eq_expansion_of_emit tree written
  have spells := (Tree.ofPattern_eq_ok_iff_of_off off).mp read
  have again : Spells Tree.Verbatim false ((Unroller.ofTable table ceiling).expansion tree ++ [])
      (Tree.unrolled ceiling tree) [] := (spells.expanded unstacked (.refl [])).1
  rw [List.append_nil] at again
  have settled := spells.settled_unrolled ceiling
  have reads := (Tree.ofPattern_eq_ok_iff_of_off off).mpr again
  refine ⟨tree, read, reads, settled, fun other => ?_⟩
  have source := again.eq_source_of_settled settled
  rw [List.append_nil] at source
  rw [unrollPattern_of_ofPattern reads, Unroller.unroll, Unroller.emit_of_settled _ settled]
  exact congrArg Except.ok source.symm

/-- Copies in copies, question marks before plain text, and a reference that is left alone. -/
theorem unrolled_reads_back_nested :
    AliasTable.empty.replacing = false ∧
    Unstacked 1 (scanAll false "(@d(a)\x7b2\x7d)*b".toList) ∧
    unrollPattern .empty 1 "(@d(a)\x7b2\x7d)*b".toList = .ok "(@d(a)(a))?b".toList ∧
    ∃ tree, Tree.ofPattern .empty "(@d(a)\x7b2\x7d)*b".toList = .ok tree ∧
      Tree.ofPattern .empty "(@d(a)(a))?b".toList = .ok (Tree.unrolled 1 tree) ∧
      (Tree.unrolled 1 tree).Settled ∧
      ∀ other, unrollPattern .empty other "(@d(a)(a))?b".toList = .ok "(@d(a)(a))?b".toList := by
  have off : AliasTable.empty.replacing = false := rfl
  have unrolled : unrollPattern .empty 1 "(@d(a)\x7b2\x7d)*b".toList = .ok "(@d(a)(a))?b".toList := by
    decide +kernel
  have tokens : scanAll false "(@d(a)\x7b2\x7d)*b".toList =
      [.opener .capturing ['('], .reference ['d'], .opener .capturing ['('], .plain ['a'], .closer,
        .quantifier "\x7b2\x7d".toList, .closer, .quantifier ['*'], .plain ['b'], .endOfInput] := by
    decide +kernel
  have unstacked : Unstacked 1 (scanAll false "(@d(a)\x7b2\x7d)*b".toList) := by
    rw [tokens]
    have last : Unstacked 1 [.plain ['b'], .endOfInput] :=
      unstacked_other (by simp) (unstacked_other (by simp) unstacked_nil)
    have star : Unstacked 1 [.closer, .quantifier ['*'], .plain ['b'], .endOfInput] :=
      unstacked_other (by simp) (unstacked_quantifier rfl (by decide) (by decide) last)
    have braces : Unstacked 1 (.quantifier "\x7b2\x7d".toList :: _) :=
      unstacked_quantifier rfl (by decide) (by decide) star
    exact unstacked_other (by simp) (unstacked_other (by simp) (unstacked_other (by simp)
      (unstacked_other (by simp) (unstacked_other (by simp) braces))))
  exact ⟨off, unstacked, unrolled, unrolled_reads_back off unstacked unrolled⟩

end GroupUnroll
