import GroupUnroll.Proofs.Quantifier
import GroupUnroll.Tree.Basic

/-! # The grammar of patterns

`Spells` says which texts spell a tree, without a machine: one rule for each kind of token, one for
each way a group may be continued after its closing parenthesis, and two for where a sequence of parts
ends. What a reference stands for is a parameter, so the same grammar serves with and without
aliases, and inside the body of an alias.

The rules read tokens by `scan`, so the grammar inherits how far a token reaches. It says on its own
how tokens nest, which group a quantifier belongs to, and which runs of plain text are joined.
-/

namespace GroupUnroll

/-- Whether a token is copied into the tree as it is written. -/
def Token.isText : Token → Bool
  | .plain _ | .escape _ => true
  | _ => false

/-- Put a group and the quantifier after it before a tree; a quantifier without bounds stays text. -/
def Tree.quantify (kind : GroupKind) (opening : Text) (body : Tree) (raw : Text) :
    Option Repetition → Tree → Tree
  | some repetition, tree => .group kind opening body (some repetition) :: tree
  | none, tree => .group kind opening body none :: Tree.join (.plain raw) tree

/-- `Spells means afterClose text tree rest`: what stands in `text` before `rest` spells `tree`. The
rest is empty or starts with the closing parenthesis of an enclosing group; a reference may stand for
any part that it `means`. -/
inductive Spells (means : Text → Part → Prop) :
    (afterClose : Bool) → (text : Text) → Tree → (rest : Text) → Prop
  | atEnd {afterClose : Bool} : Spells means afterClose [] [] []
  | atCloser {afterClose : Bool} {rest : Text} :
      Spells means afterClose (')' :: rest) [] (')' :: rest)
  | copied {afterClose : Bool} {text next rest : Text} {token : Token} {tree : Tree}
      (read : scan afterClose text = (token, next)) (isText : token.isText = true)
      (more : Spells means false next tree rest) :
      Spells means afterClose text (Tree.join (.plain token.source) tree) rest
  | reference {afterClose : Bool} {text next rest name : Text} {part : Part} {tree : Tree}
      (read : scan afterClose text = (.reference name, next)) (found : means name part)
      (more : Spells means false next tree rest) :
      Spells means afterClose text (Tree.join part tree) rest
  /-- A group that no quantifier follows. -/
  | bare {afterClose : Bool} {text next after rest opening : Text} {kind : GroupKind}
      {body tree : Tree} (read : scan afterClose text = (.opener kind opening, next))
      (inner : Spells means false next body (')' :: after))
      (unquantified : startsQuantifier after = false) (more : Spells means true after tree rest) :
      Spells means afterClose text (.group kind opening body none :: tree) rest
  /-- A group with a quantifier after it. -/
  | quantified {afterClose : Bool} {text next after later rest opening raw : Text}
      {kind : GroupKind} {body tree : Tree} {bounds : Option Repetition}
      (read : scan afterClose text = (.opener kind opening, next))
      (inner : Spells means false next body (')' :: after))
      (quantifier : scan true after = (.quantifier raw, later))
      (stated : ∀ position, Repetition.ofQuantifier raw position = .ok bounds)
      (more : Spells means false later tree rest) :
      Spells means afterClose text (Tree.quantify kind opening body raw bounds tree) rest

/-! ## Tokens of a spelled text -/

theorem scanAll_of_scan {afterClose : Bool} {text next : Text} {token : Token}
    (read : scan afterClose text = (token, next)) (more : token ≠ .endOfInput)
    (inside : token ≠ .closer) : scanAll afterClose text = token :: scanAll false next := by
  cases text with
  | nil => exact absurd (congrArg Prod.fst read).symm more
  | cons c rest =>
    rw [scanAll, read]
    dsimp only
    rw [decide_eq_false inside]

@[simp] theorem scanAll_closer (afterClose : Bool) (after : Text) :
    scanAll afterClose (')' :: after) = .closer :: scanAll true after := by
  rw [scanAll]
  rfl

/-- Every token of a text is read off some text. -/
theorem exists_scan_of_mem {afterClose : Bool} {text : Text} {token : Token}
    (member : token ∈ scanAll afterClose text) :
    ∃ afterClose text next, scan afterClose text = (token, next) := by
  fun_induction scanAll afterClose text with
  | case1 afterClose =>
    obtain rfl := List.mem_singleton.mp member
    exact ⟨false, [], [], rfl⟩
  | case2 afterClose c rest ih =>
    rcases List.mem_cons.mp member with rfl | later
    · exact ⟨afterClose, c :: rest, _, rfl⟩
    · exact ih later

theorem source_ne_nil_of_scan {afterClose : Bool} {text next : Text} {token : Token}
    (read : scan afterClose text = (token, next)) (more : token ≠ .endOfInput) : token.source ≠ [] := by
  rcases text with _ | ⟨c, rest⟩
  · exact absurd (congrArg Prod.fst read).symm more
  · have characters := scan_source_ne_nil afterClose c rest
    rwa [read] at characters

/-- A token starts with the first character of the text that it is read off. -/
theorem exists_source_of_scan {afterClose : Bool} {c : Char} {rest next : Text} {token : Token}
    (read : scan afterClose (c :: rest) = (token, next)) : ∃ more, token.source = c :: more := by
  have characters := scan_source_ne_nil afterClose c rest
  have whole := source_append_of_scan read
  rw [read] at characters
  obtain ⟨first, more, spelled⟩ := List.exists_cons_of_ne_nil characters
  rw [spelled] at whole
  obtain rfl : first = c := (List.cons.inj whole).1
  exact ⟨more, spelled⟩

/-- Only what is read behind an opening parenthesis is an opener. -/
theorem scanOpener_of_scan {afterClose : Bool} {text next opening : Text} {kind : GroupKind}
    (read : scan afterClose text = (.opener kind opening, next)) :
    ∃ rest, text = '(' :: rest ∧ scanOpener rest = (.opener kind opening, next) := by
  rcases text with _ | ⟨c, rest⟩
  · cases read
  simp only [scan] at read
  split_ifs at read with backslash opens closing sign brace reference
  · cases rest <;> cases read
  · exact ⟨rest, by rw [opens], read⟩
  · cases read
  · cases read
  · cases read
  · unfold scanReference at read
    split at read <;> cases read
  · cases read

theorem Token.isText_ne {token : Token} (isText : token.isText = true) :
    token ≠ .endOfInput ∧ token ≠ .closer ∧ ∀ name, token ≠ .reference name := by
  refine ⟨?_, ?_, fun name => ?_⟩ <;> (rintro rfl; exact absurd isText (by simp [Token.isText]))

/-- Whether a token can be read: a reference means something, and a quantifier states bounds or that there are
none. -/
def Token.Readable (means : Text → Part → Prop) : Token → Prop
  | .reference name => ∃ part, means name part
  | .quantifier raw => ∃ bounds, ∀ position, Repetition.ofQuantifier raw position = .ok bounds
  | _ => True

theorem Token.readable_of_isText {means : Text → Part → Prop} {token : Token} (isText : token.isText = true) :
    token.Readable means := by
  cases token with
  | plain text => trivial
  | escape escaped => trivial
  | _ => cases isText

theorem Token.isText_ne_quantifier {token : Token} (isText : token.isText = true) (raw : Text) :
    token ≠ .quantifier raw := by
  rintro rfl
  exact absurd isText (by simp [Token.isText])

namespace Spells

variable {means : Text → Part → Prop} {afterClose : Bool} {text rest : Text} {tree : Tree}

theorem rest_cases (spells : Spells means afterClose text tree rest) :
    rest = [] ∨ ∃ tail, rest = ')' :: tail := by
  induction spells with
  | atEnd => exact .inl rfl
  | atCloser => exact .inr ⟨_, rfl⟩
  | copied _ _ _ ih => exact ih
  | reference _ _ _ ih => exact ih
  | bare _ _ _ _ _ ih => exact ih
  | quantified _ _ _ _ _ _ ih => exact ih

theorem suffix (spells : Spells means afterClose text tree rest) : rest <:+ text := by
  have shorter {afterClose : Bool} {text next : Text} {token : Token}
      (read : scan afterClose text = (token, next)) : next <:+ text := by
    have suffix := scan_suffix afterClose text
    rwa [read] at suffix
  induction spells with
  | atEnd => exact List.suffix_refl _
  | atCloser => exact List.suffix_refl _
  | copied read _ _ ih => exact ih.trans (shorter read)
  | reference read _ _ ih => exact ih.trans (shorter read)
  | bare read _ _ _ ihBody ih =>
    exact ih.trans ((List.suffix_cons _ _).trans (ihBody.trans (shorter read)))
  | quantified read _ quantifier _ _ ihBody ih =>
    exact (ih.trans (shorter quantifier)).trans
      ((List.suffix_cons _ _).trans (ihBody.trans (shorter read)))

/-- A text that does not start with a quantifier spells the same wherever it stands. -/
theorem of_unquantified (spells : Spells means afterClose text tree rest)
    (unquantified : startsQuantifier text = false) (other : Bool) :
    Spells means other text tree rest := by
  have same := scan_unquantified unquantified afterClose other
  cases spells with
  | atEnd => exact .atEnd
  | atCloser => exact .atCloser
  | copied read isText more => exact .copied (same ▸ read) isText more
  | reference read found more => exact .reference (same ▸ read) found more
  | bare read inner unquantified more => exact .bare (same ▸ read) inner unquantified more
  | quantified read inner quantifier stated more =>
    exact .quantified (same ▸ read) inner quantifier stated more

theorem mono {other : Text → Part → Prop} (wider : ∀ name part, means name part → other name part)
    (spells : Spells means afterClose text tree rest) : Spells other afterClose text tree rest := by
  induction spells with
  | atEnd => exact .atEnd
  | atCloser => exact .atCloser
  | copied read isText _ ih => exact .copied read isText ih
  | reference read found _ ih => exact .reference read (wider _ _ found) ih
  | bare read _ unquantified _ ihBody ih => exact .bare read ihBody unquantified ih
  | quantified read _ quantifier stated _ ihBody ih => exact .quantified read ihBody quantifier stated ih

/-- The tokens of a text are those it spells with, each of which can be read, followed by those of the rest. -/
theorem scanAll_eq (spells : Spells means afterClose text tree rest) :
    ∃ tokens, (∀ later, scanAll afterClose text = tokens ++ scanAll later rest) ∧
      ∀ token ∈ tokens, token.Readable means := by
  induction spells with
  | atEnd => exact ⟨[], fun _ => by simp [scanAll], by simp⟩
  | atCloser => exact ⟨[], fun _ => by simp, by simp⟩
  | @copied _ _ _ _ token _ read isText _ ih =>
    obtain ⟨tokens, all, readable⟩ := ih
    obtain ⟨more, inside, -⟩ := Token.isText_ne isText
    refine ⟨token :: tokens, fun later => ?_, ?_⟩
    · rw [scanAll_of_scan read more inside, all later, List.cons_append]
    · exact List.forall_mem_cons.mpr ⟨Token.readable_of_isText isText, readable⟩
  | @reference _ _ _ _ name part _ read found _ ih =>
    obtain ⟨tokens, all, readable⟩ := ih
    refine ⟨.reference name :: tokens, fun later => ?_, ?_⟩
    · rw [scanAll_of_scan read (by simp) (by simp), all later, List.cons_append]
    · exact List.forall_mem_cons.mpr ⟨⟨part, found⟩, readable⟩
  | @bare _ _ _ _ _ opening kind _ _ read _ _ _ ihBody ih =>
    obtain ⟨inner, allInner, readableInner⟩ := ihBody
    obtain ⟨tokens, all, readable⟩ := ih
    refine ⟨.opener kind opening :: (inner ++ .closer :: tokens), fun later => ?_, ?_⟩
    · rw [scanAll_of_scan read (by simp) (by simp), allInner false]
      simp [all later]
    · have behind : ∀ token ∈ .closer :: tokens, token.Readable means :=
        List.forall_mem_cons.mpr ⟨trivial, readable⟩
      exact List.forall_mem_cons.mpr ⟨trivial, List.forall_mem_append.mpr ⟨readableInner, behind⟩⟩
  | @quantified _ _ _ _ _ _ opening raw kind _ _ bounds read _ quantifier stated _ ihBody ih =>
    obtain ⟨inner, allInner, readableInner⟩ := ihBody
    obtain ⟨tokens, all, readable⟩ := ih
    refine ⟨.opener kind opening :: (inner ++ .closer :: .quantifier raw :: tokens), fun later => ?_, ?_⟩
    · rw [scanAll_of_scan read (by simp) (by simp), allInner false]
      simp [scanAll_of_scan quantifier (by simp) (by simp), all later]
    · have quantified : ∀ token ∈ .quantifier raw :: tokens, token.Readable means :=
        List.forall_mem_cons.mpr ⟨⟨bounds, stated⟩, readable⟩
      have behind : ∀ token ∈ .closer :: .quantifier raw :: tokens, token.Readable means :=
        List.forall_mem_cons.mpr ⟨trivial, quantified⟩
      exact List.forall_mem_cons.mpr ⟨trivial, List.forall_mem_append.mpr ⟨readableInner, behind⟩⟩

/-- Every token of a text that spells a tree in full can be read. -/
theorem readable_of_mem {token : Token} (spells : Spells means afterClose text tree [])
    (member : token ∈ scanAll afterClose text) : token.Readable means := by
  obtain ⟨tokens, all, readable⟩ := spells.scanAll_eq
  rw [all false, scanAll] at member
  rcases List.mem_append.mp member with before | last
  · exact readable token before
  · obtain rfl := List.mem_singleton.mp last
    trivial

/-- Whether a text spells a tree depends on references only through whether each means something. -/
theorem exists_spells {other : Text → Part → Prop} (spells : Spells means afterClose text tree rest)
    (meant : ∀ name, .reference name ∈ scanAll afterClose text → ∃ part, other name part) :
    ∃ tree, Spells other afterClose text tree rest := by
  induction spells with
  | atEnd => exact ⟨_, .atEnd⟩
  | atCloser => exact ⟨_, .atCloser⟩
  | copied read isText _ ih =>
    obtain ⟨more, inside, -⟩ := Token.isText_ne isText
    rw [scanAll_of_scan read more inside] at meant
    obtain ⟨tree, spells⟩ := ih fun name member => meant name (List.mem_cons_of_mem _ member)
    exact ⟨_, .copied read isText spells⟩
  | reference read _ _ ih =>
    rw [scanAll_of_scan read (by simp) (by simp)] at meant
    obtain ⟨part, found⟩ := meant _ (List.mem_cons_self ..)
    obtain ⟨tree, spells⟩ := ih fun name member => meant name (List.mem_cons_of_mem _ member)
    exact ⟨_, .reference read found spells⟩
  | bare read inner unquantified _ ihBody ih =>
    rw [scanAll_of_scan read (by simp) (by simp)] at meant
    obtain ⟨tokens, all, -⟩ := inner.scanAll_eq
    obtain ⟨body, spellsBody⟩ := ihBody fun name member => meant name (List.mem_cons_of_mem _ member)
    obtain ⟨tree, spells⟩ := ih fun name member => meant name (by simp [all false, member])
    exact ⟨_, .bare read spellsBody unquantified spells⟩
  | quantified read inner quantifier stated _ ihBody ih =>
    rw [scanAll_of_scan read (by simp) (by simp)] at meant
    obtain ⟨tokens, all, -⟩ := inner.scanAll_eq
    obtain ⟨body, spellsBody⟩ := ihBody fun name member => meant name (List.mem_cons_of_mem _ member)
    obtain ⟨tree, spells⟩ := ih fun name member => meant name (by
      simp [all false, scanAll_of_scan quantifier (by simp) (by simp), member])
    exact ⟨_, .quantified read spellsBody quantifier stated spells⟩

end Spells

end GroupUnroll
