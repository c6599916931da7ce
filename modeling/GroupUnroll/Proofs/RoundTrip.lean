import GroupUnroll.Proofs.Answer
import GroupUnroll.Proofs.References
import GroupUnroll.Unrolling.Report

/-! # Spelling a tree and reading it again

The spelling of a tree writes every quantifier in its shortest form, so it is in general not the text the
tree was read from. It differs from that text only behind closing parentheses, though, and no token that
stands before one looks that far. `Spells.respelled` carries this through a whole text: the spelling of
a tree spells the tree, and it is alike to the text the tree was spelled by.
-/

namespace GroupUnroll

namespace Tree

variable {kind : GroupKind} {opening raw : Text} {body tree : Tree}

/-- What stands behind a group is spelled by its bounds, or by a quantifier that states none. -/
def quantifierText (raw : Text) : Option Repetition → Text
  | some repetition => repetition.source
  | none => raw

theorem source_quantify (bounds : Option Repetition) :
    Tree.source (quantify kind opening body raw bounds tree) =
      opening ++ (Tree.source body ++ ')' :: (quantifierText raw bounds ++ Tree.source tree)) := by
  cases bounds <;> simp [quantify, quantifierText, source_join, Part.source, quantifierSource]

end Tree

namespace Spells

variable {means : Text → Part → Prop} {afterClose : Bool} {text rest other : Text} {tree : Tree}

/-- A tree's spelling spells the tree before every rest alike to the one the tree was read before. -/
theorem respelled (named : ∀ name part, means name part → part.source = '@' :: name)
    (spells : Spells means afterClose text tree rest) (alike : Text.Alike rest other) :
    Spells means afterClose (Tree.source tree ++ other) tree other ∧
      Text.Alike text (Tree.source tree ++ other) := by
  induction spells generalizing other with
  | atEnd =>
    rw [alike.eq_nil]
    exact ⟨.atEnd, .refl _⟩
  | atCloser =>
    obtain ⟨tail, rfl⟩ := alike.eq_cons
    exact ⟨.atCloser, alike⟩
  | @copied follows text next _ token tree read isText more ih =>
    obtain ⟨spells, same⟩ := ih alike
    have whole := source_append_of_scan read
    rw [Tree.source_join, Part.source, List.append_assoc, ← whole]
    have again := scan_alike read (Token.isText_ne_quantifier isText) same
    exact ⟨.copied again isText spells, same.append _⟩
  | @reference follows text next _ name part tree read found more ih =>
    obtain ⟨spells, same⟩ := ih alike
    have whole := source_append_of_scan read
    rw [Tree.source_join, named _ _ found, List.append_assoc, ← whole]
    have again := scan_alike read (by simp) same
    exact ⟨.reference again found spells, same.append _⟩
  | @bare follows text next after _ opening kind body tree read inner unquantified more ihBody ih =>
    obtain ⟨spells, same⟩ := ih alike
    obtain ⟨spellsBody, sameBody⟩ := ihBody (Text.alike_closer after (Tree.source tree ++ other))
    have whole := source_append_of_scan read
    have again := scan_alike read (by simp) sameBody
    have source : Tree.source (.group kind opening body none :: tree) ++ other =
        opening ++ (Tree.source body ++ ')' :: (Tree.source tree ++ other)) := by
      simp [Part.source, quantifierSource]
    rw [source, ← whole]
    exact ⟨.bare again spellsBody (same.startsQuantifier_eq ▸ unquantified) spells, sameBody.append _⟩
  | @quantified follows text next after later _ opening raw kind body tree bounds read inner quantifier
      stated more ihBody ih =>
    obtain ⟨spells, same⟩ := ih alike
    obtain ⟨spellsBody, sameBody⟩ := ihBody
      (Text.alike_closer after (Tree.quantifierText raw bounds ++ (Tree.source tree ++ other)))
    have whole := source_append_of_scan read
    have again := scan_alike read (by simp) sameBody
    rw [Tree.source_quantify, ← whole]
    simp only [List.append_assoc, List.cons_append]
    refine ⟨?_, sameBody.append _⟩
    cases bounds with
    | some repetition =>
      change Spells _ _ _ (Tree.quantify kind opening body repetition.source (some repetition) tree) _
      exact .quantified again spellsBody (repetition.scan_source _) repetition.ofQuantifier_source spells
    | none =>
      obtain rfl := source_append_of_scan quantifier
      have quantifier := Repetition.scan_append_of_ofQuantifier quantifier (stated 0)
      exact .quantified again spellsBody (quantifier _) stated spells

end Spells

/-- The spelling of a tree that was read from a pattern is read as the tree. -/
theorem Tree.ofPattern_source {table : AliasTable} {pattern : Text} {tree : Tree}
    (read : ofPattern table pattern = .ok tree) : ofPattern table (Tree.source tree) = .ok tree := by
  rw [ofPattern_eq_ok_iff] at read ⊢
  have again := (read.respelled (fun _ _ => Reader.source_of_meansWithin) (.refl [])).1
  rwa [List.append_nil] at again

/-! ## Bounds -/

/-- The spelling of bounds is read as the bounds wherever it stands, so no two bounds are spelled alike; and behind a
group it is one token, whatever stands behind it. -/
theorem Repetition.source_reads_back (repetition : Repetition) :
    (∀ position, ofQuantifier repetition.source position = .ok (some repetition)) ∧
    (∀ text, (Cursor.start ("()".toList ++ repetition.source ++ text)).tokens =
      .opener .capturing ['('] :: .closer :: .quantifier repetition.source :: (Cursor.start text).tokens) ∧
    ∀ other : Repetition, repetition.source = other.source ↔ repetition = other := by
  refine ⟨ofQuantifier_source repetition, fun text => ?_, fun other => ⟨fun same => ?_, congrArg source⟩⟩
  · have opener : scan false ("()".toList ++ repetition.source ++ text) =
        (.opener .capturing ['('], ')' :: (repetition.source ++ text)) := by
      rw [List.append_assoc]
      rfl
    have quantifier := scanAll_of_scan (repetition.scan_source text) (by simp) (by simp)
    rw [Cursor.start, Cursor.tokens, scanAll_of_scan opener (by simp) (by simp), scanAll_closer, quantifier]
    rfl
  · have read := ofQuantifier_source repetition 0
    rw [same, ofQuantifier_source other 0] at read
    exact (Option.some.inj (Except.ok.inj read)).symm

/-! ## Patterns and reports -/

theorem unrollPattern_of_ofPattern {table : AliasTable} {ceiling : UInt64} {pattern : Text} {tree : Tree}
    (read : Tree.ofPattern table pattern = .ok tree) :
    unrollPattern table ceiling pattern = (Unroller.ofTable table ceiling).unroll tree := by
  rw [unrollPattern, read]
  rfl

/-- What a report states about a pattern. -/
theorem Report.ofPattern_eq_ok {table : AliasTable} {ceiling : UInt64} {pattern : Text} {report : Report}
    (reported : Report.ofPattern table ceiling pattern = .ok report) :
    ∃ tree, Tree.ofPattern table pattern = .ok tree ∧ report.spelling = Tree.source tree ∧
      (Unroller.ofTable table ceiling).unroll tree = .ok report.unrolled := by
  rw [Report.ofPattern] at reported
  obtain ⟨tree, read, reported⟩ := bind_eq_ok.mp reported
  obtain ⟨unrolled, written, reported⟩ := bind_eq_ok.mp reported
  obtain rfl := Except.ok.inj reported
  exact ⟨tree, read, rfl, written⟩

/-- A tree read from a pattern is read again from its spelling, references and the trees of their
bodies included; so the spelling in a report is unrolled to what the pattern is unrolled to. -/
theorem spelling_reads_back (table : AliasTable) (pattern : Text) :
    (∀ tree, Tree.ofPattern table pattern = .ok tree →
      Tree.ofPattern table (Tree.source tree) = .ok tree) ∧
    ∀ ceiling report, Report.ofPattern table ceiling pattern = .ok report →
      unrollPattern table ceiling report.spelling = .ok report.unrolled ∧
        unrollPattern table ceiling pattern = .ok report.unrolled := by
  refine ⟨fun tree read => Tree.ofPattern_source read, fun ceiling report reported => ?_⟩
  obtain ⟨tree, read, spelling, unrolled⟩ := Report.ofPattern_eq_ok reported
  have again := Tree.ofPattern_source read
  rw [spelling, unrollPattern_of_ofPattern again, unrollPattern_of_ofPattern read]
  exact ⟨unrolled, unrolled⟩

/-- A table with an alias for a run of digits, whose references are replaced by named groups. -/
def digitAlias : AliasTable := ⟨[("d".toList, "([0-9])*".toList)], true, true⟩

/-- Two copies of a group around a reference, and a group with braces behind it. -/
def digitPair : Tree :=
  [.group .capturing ['('] [.reference ['d'] [.group .capturing ['('] [.plain "[0-9]".toList] (some ⟨0, .unbounded⟩)]]
      (some ⟨2, .atMost 2⟩),
    .group .nonCapturing "(?:".toList [.plain ['x']] none, .plain "\x7b\x7d".toList]

/-- A reference, a quantifier that is not in its shortest form, and braces without bounds. -/
theorem spelling_reads_back_digitAlias :
    Tree.ofPattern digitAlias "(@d)\x7b 02,2\x7d(?:x)\x7b\x7d".toList = .ok digitPair ∧
    Tree.source digitPair = "(@d)\x7b2\x7d(?:x)\x7b\x7d".toList ∧
    Tree.ofPattern digitAlias "(@d)\x7b2\x7d(?:x)\x7b\x7d".toList = .ok digitPair ∧
    Report.ofPattern digitAlias 1 "(@d)\x7b 02,2\x7d(?:x)\x7b\x7d".toList =
      .ok ⟨"(@d)\x7b 02,2\x7d(?:x)\x7b\x7d".toList, digitPair.shown, "(@d)\x7b2\x7d(?:x)\x7b\x7d".toList,
        "((?<d>([0-9])?))((?<d>([0-9])?))(?:x)\x7b\x7d".toList⟩ ∧
    unrollPattern digitAlias 1 "(@d)\x7b2\x7d(?:x)\x7b\x7d".toList =
      .ok "((?<d>([0-9])?))((?<d>([0-9])?))(?:x)\x7b\x7d".toList := by
  have read : Tree.ofPattern digitAlias "(@d)\x7b 02,2\x7d(?:x)\x7b\x7d".toList = .ok digitPair := by
    with_unfolding_all rfl
  have spelled : Tree.source digitPair = "(@d)\x7b2\x7d(?:x)\x7b\x7d".toList := by decide +kernel
  have written : (Unroller.ofTable digitAlias 1).unroll digitPair =
      .ok "((?<d>([0-9])?))((?<d>([0-9])?))(?:x)\x7b\x7d".toList := by with_unfolding_all rfl
  have reported : Report.ofPattern digitAlias 1 "(@d)\x7b 02,2\x7d(?:x)\x7b\x7d".toList =
      .ok ⟨"(@d)\x7b 02,2\x7d(?:x)\x7b\x7d".toList, digitPair.shown, Tree.source digitPair,
        "((?<d>([0-9])?))((?<d>([0-9])?))(?:x)\x7b\x7d".toList⟩ := by
    simp only [Report.ofPattern, read, written, bind, Except.bind, pure, Except.pure]
  obtain ⟨trees, reports⟩ := spelling_reads_back digitAlias "(@d)\x7b 02,2\x7d(?:x)\x7b\x7d".toList
  have again := trees digitPair read
  have unrolled := (reports 1 _ reported).1
  rw [spelled] at again reported unrolled
  exact ⟨read, spelled, again, reported, unrolled⟩

end GroupUnroll
