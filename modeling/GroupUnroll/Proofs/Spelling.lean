import GroupUnroll.Proofs.RoundTrip

/-! # The spelling of a tree, token by token

A tree keeps no tokens. Runs of plain text are joined where they meet, a quantifier is turned into the bounds of the
group before it, and a reference holds the tree of its body. Its spelling is still that of the pattern token for
token, with nothing added, left out or moved: only where a quantifier states bounds it is the spelling of the
bounds. Braces without bounds, escapes, names after an at sign and parentheses are spelled as they were written.
-/

namespace GroupUnroll

/-- How a tree spells a token: as it was written, or by the bounds that it states. -/
def Token.respelling : Token → Text
  | .quantifier raw =>
    match Repetition.ofQuantifier raw 0 with
    | .ok bounds => Tree.quantifierText raw bounds
    | .error _ => raw
  | token => token.source

namespace Token

variable {token : Token} {raw : Text}

theorem respelling_of_ne (other : ∀ raw, token ≠ .quantifier raw) : token.respelling = token.source := by
  cases token with
  | quantifier raw => exact absurd rfl (other raw)
  | _ => rfl

theorem respelling_quantifier {bounds : Option Repetition}
    (stated : ∀ position, Repetition.ofQuantifier raw position = .ok bounds) :
    (quantifier raw).respelling = Tree.quantifierText raw bounds := by
  simp only [respelling, stated 0]

end Token

/-- The spelling of a tree goes through the tokens of a text as far as the text spells the tree. -/
theorem Spells.flatMap_respelling {means : Text → Part → Prop} {afterClose : Bool} {text rest : Text} {tree : Tree}
    (named : ∀ name part, means name part → part.source = '@' :: name)
    (spells : Spells means afterClose text tree rest) (later : Bool) :
    (scanAll afterClose text).flatMap Token.respelling =
      Tree.source tree ++ (scanAll later rest).flatMap Token.respelling := by
  induction spells generalizing later with
  | atEnd => simp [scanAll]
  | atCloser => simp
  | copied read isText _ ih =>
    obtain ⟨more, inside, -⟩ := Token.isText_ne isText
    rw [scanAll_of_scan read more inside, List.flatMap_cons, ih later, Tree.source_join, List.append_assoc,
      Token.respelling_of_ne (Token.isText_ne_quantifier isText)]
    rfl
  | reference read found _ ih =>
    rw [scanAll_of_scan read (by simp) (by simp), List.flatMap_cons, ih later, Tree.source_join, List.append_assoc,
      named _ _ found]
    rfl
  | bare read _ _ _ ihBody ih =>
    rw [scanAll_of_scan read (by simp) (by simp), List.flatMap_cons, ihBody false, scanAll_closer,
      List.flatMap_cons, ih later, Tree.source_cons, Part.source]
    simp [Token.respelling, Token.source, quantifierSource]
  | quantified read _ quantifier stated _ ihBody ih =>
    rw [scanAll_of_scan read (by simp) (by simp), List.flatMap_cons, ihBody false, scanAll_closer,
      List.flatMap_cons, scanAll_of_scan quantifier (by simp) (by simp), List.flatMap_cons, ih later,
      Token.respelling_quantifier stated, Tree.source_quantify]
    simp [Token.respelling, Token.source]

/-- The spelling of a tree that was read from a pattern is the pattern, token for token, with each quantifier that
states bounds written anew; and every quantifier of the pattern states bounds or that there are none. -/
theorem spelling_by_tokens {table : AliasTable} {pattern : Text} {tree : Tree}
    (read : Tree.ofPattern table pattern = .ok tree) :
    Tree.source tree = (Cursor.start pattern).tokens.flatMap Token.respelling ∧
    ∀ raw, .quantifier raw ∈ (Cursor.start pattern).tokens →
      ∃ bounds, (∀ position, Repetition.ofQuantifier raw position = .ok bounds) ∧
        (Token.quantifier raw).respelling = Tree.quantifierText raw bounds := by
  have spells := Tree.ofPattern_eq_ok_iff.mp read
  constructor
  · have whole := spells.flatMap_respelling (fun _ _ => Reader.source_of_meansWithin) false
    have ends : (scanAll false []).flatMap Token.respelling = [] := by
      simp [scanAll, Token.respelling, Token.source]
    rw [ends, List.append_nil] at whole
    exact whole.symm
  · intro raw member
    obtain ⟨bounds, stated⟩ := spells.readable_of_mem member
    exact ⟨bounds, stated, Token.respelling_quantifier stated⟩

/-- An alias in a group with bounds that are not in their shortest form, braces without bounds, a class with a
parenthesis, an escape, and an at sign with a name that is not an alias. -/
theorem spelling_by_tokens_digitAlias :
    ∃ tree, Tree.ofPattern digitAlias "(@d)\x7b 02,2\x7d(?:x)\x7b \x7d[@)]\\@@no".toList = .ok tree ∧
      Tree.source tree = "(@d)\x7b2\x7d(?:x)\x7b \x7d[@)]\\@@no".toList := by
  have readable : (Tree.ofPattern digitAlias "(@d)\x7b 02,2\x7d(?:x)\x7b \x7d[@)]\\@@no".toList).isOk = true := by
    decide +kernel
  obtain ⟨tree, read⟩ := exists_eq_ok readable
  obtain ⟨whole, -⟩ := spelling_by_tokens read
  refine ⟨tree, read, whole.trans ?_⟩
  decide +kernel

end GroupUnroll
