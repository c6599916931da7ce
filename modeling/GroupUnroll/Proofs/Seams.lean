import GroupUnroll.Proofs.Rereading

/-! # What meets behind a copy

A group with bounds becomes copies, and the text behind its quantifier comes to stand behind the last one.
Behind an optional copy this is harmless, since a question mark is in between. Behind a copy that must be
there, a character that starts a quantifier gives the copy bounds again, and a question mark makes it
optional. A group that is written no times does the same to the copy before it, by bringing the text behind
the group there. `Apart` rules both out, for the characters that would do harm; then unrolled text has no
bounds left, and a copy that must be there stays without a question mark.
-/

namespace GroupUnroll

/-- Whether a text starts with a question mark. -/
def startsMark (text : Text) : Bool := text.head? == some '?'

/-- `copy` is one of the copies that a group in the tree must have, and the expansion of the tree has `before`
in front of it and `after` behind it. What stands for a reference is not looked into. -/
inductive Unroller.Mandatory (unroller : Unroller) : Tree → (before copy after : Text) → Prop
  | here {kind : GroupKind} {opening copy : Text} {body rest : Tree} {repetition : Repetition}
      {sooner later : Nat} (spelled : opening ++ (unroller.expansion body ++ [')']) = copy)
      (counted : sooner + 1 + later = repetition.min.toNat) :
      Mandatory unroller (.group kind opening body (some repetition) :: rest)
        (List.replicate sooner copy).flatten copy
        ((List.replicate later copy).flatten ++
          ((List.replicate (repetition.optionalCount unroller.ceiling).toNat (copy ++ ['?'])).flatten ++
            unroller.expansion rest))
  /-- In each copy of a group, whether or not it must be there itself. -/
  | inside {kind : GroupKind} {opening before copy after front back : Text} {body rest : Tree}
      {repetition : Option Repetition} (inner : Mandatory unroller body before copy after)
      (placed : unroller.repeated (opening ++ (unroller.expansion body ++ [')'])) repetition =
        front ++ (opening ++ (unroller.expansion body ++ [')']) ++ back)) :
      Mandatory unroller (.group kind opening body repetition :: rest) (front ++ (opening ++ before)) copy
        (after ++ ')' :: (back ++ unroller.expansion rest))
  | later {part : Part} {rest : Tree} {before copy after : Text} (more : Mandatory unroller rest before copy after) :
      Mandatory unroller (part :: rest) (unroller.expansionOfPart part ++ before) copy after

namespace Unroller.Mandatory

variable {unroller : Unroller} {tree : Tree} {before copy after text : Text}

theorem expansion_eq (written : unroller.Mandatory tree before copy after) :
    unroller.expansion tree = before ++ (copy ++ after) := by
  induction written with
  | @here _ _ copy _ _ _ sooner later spelled counted =>
    rw [expansion_cons, expansionOfPart_group, spelled, repeated, ← counted, ← List.replicate_append_replicate,
      ← List.replicate_append_replicate]
    simp
  | inside inner placed ih =>
    rw [expansion_cons, expansionOfPart_group, placed, ih]
    simp
  | later more ih => rw [expansion_cons, ih, List.append_assoc]

theorem of_join_plain (written : unroller.Mandatory (Tree.join (.plain text) tree) before copy after) :
    ∃ before, unroller.Mandatory tree before copy after := by
  rcases tree with _ | ⟨_ | _ | _, rest⟩
  · cases written with
    | later more => exact ⟨_, more⟩
  · cases written with
    | later more => exact ⟨_, .later more⟩
  · cases written with
    | later more => exact ⟨_, more⟩
  · cases written with
    | later more => exact ⟨_, more⟩

theorem join_plain (written : unroller.Mandatory tree before copy after) :
    ∃ before, unroller.Mandatory (Tree.join (.plain text) tree) before copy after := by
  rcases tree with _ | ⟨_ | _ | _, rest⟩
  · cases written
  · cases written with
    | later more => exact ⟨_, .later more⟩
  · exact ⟨_, .later written⟩
  · exact ⟨_, .later written⟩

end Unroller.Mandatory

/-- Every opener starts with an opening parenthesis. -/
theorem head?_of_opener {afterClose : Bool} {text next opening : Text} {kind : GroupKind}
    (read : scan afterClose text = (.opener kind opening, next)) : opening.head? = some '(' := by
  obtain ⟨rest, rfl, -⟩ := scanOpener_of_scan read
  obtain ⟨more, spelled⟩ := exists_source_of_scan read
  exact List.head?_eq_some_iff.mpr ⟨more, spelled⟩

theorem startsMark_append {opening : Text} (opens : opening.head? = some '(') (text : Text) :
    startsMark (opening ++ text) = false := by
  obtain ⟨tail, rfl⟩ := List.head?_eq_some_iff.mp opens
  simp [startsMark]

namespace Spells

variable {unroller : Unroller} {afterClose : Bool} {text rest other before copy after : Text} {tree : Tree}

/-- Behind a copy that must be there stands another copy, or the text behind the quantifier. -/
theorem unmarked_here {kind : GroupKind} {opening next : Text} {repetition : Repetition} {later : Nat}
    (read : scan afterClose text = (.opener kind opening, next))
    (apart : (repetition.max.orCeiling unroller.ceiling).toNat ≤ repetition.min.toNat → startsMark rest = false)
    (inner : Text) :
    startsMark ((List.replicate later (opening ++ inner)).flatten ++
      ((List.replicate (repetition.optionalCount unroller.ceiling).toNat (opening ++ inner ++ ['?'])).flatten ++
        rest)) = false := by
  have opens := startsMark_append (head?_of_opener read)
  cases later with
  | succ count =>
    rw [List.replicate_succ, List.flatten_cons, List.append_assoc, List.append_assoc]
    exact opens _
  | zero =>
    rw [List.replicate_zero, List.flatten_nil, List.nil_append]
    cases counted : (repetition.optionalCount unroller.ceiling).toNat with
    | succ count =>
      rw [List.replicate_succ, List.flatten_cons, List.append_assoc, List.append_assoc, List.append_assoc]
      exact opens _
    | zero =>
      apply apart
      unfold Repetition.optionalCount at counted
      omega

/-- No copy that must be there has a question mark behind it. -/
theorem unmarked (spells : Spells Tree.Verbatim afterClose text tree rest)
    (apart : Apart unroller.ceiling startsMark (scanAll afterClose text)) (alike : Text.Alike rest other)
    (written : unroller.Mandatory tree before copy after) : startsMark (after ++ other) = false := by
  induction spells generalizing other before copy after with
  | atEnd => cases written
  | atCloser => cases written
  | @copied _ _ _ _ token tree read isText more ih =>
    obtain ⟨unfinished, unclosed, -⟩ := Token.isText_ne isText
    obtain ⟨_, written⟩ := written.of_join_plain
    exact ih (apart.next read unfinished unclosed) alike written
  | @reference _ _ _ _ name part tree read found more ih =>
    obtain rfl : part = .plain ('@' :: name) := found
    obtain ⟨_, written⟩ := written.of_join_plain
    exact ih (apart.next read (by simp) (by simp)) alike written
  | @bare _ _ _ behind _ _ _ _ _ read inner _ _ ihBody ih =>
    have within := apart.next read (by simp) (by simp)
    cases written with
    | inside written placed =>
      rw [List.append_assoc]
      exact ihBody within (Text.alike_closer behind _) written
    | later written => exact ih (within.behind inner) alike written
  | @quantified _ _ _ behind _ _ _ raw _ _ tree bounds read inner quantifier stated more ihBody ih =>
    have within := apart.next read (by simp) (by simp)
    have next := within.behind inner
    have later := next.next quantifier (by simp) (by simp)
    cases bounds with
    | none =>
      cases written with
      | inside written placed =>
        rw [List.append_assoc]
        exact ihBody within (Text.alike_closer behind _) written
      | later written =>
        obtain ⟨_, written⟩ := written.of_join_plain
        exact ih later alike written
    | some repetition =>
      cases written with
      | here spelled counted =>
        rw [scanAll_of_scan quantifier (by simp) (by simp)] at next
        obtain ⟨-, unmarked⟩ := next [] raw _ repetition 0 rfl (stated 0)
        rw [flatMap_source_scanAll, startsMark, (more.alike_expansion (Apart.writing later) alike).head?_eq]
          at unmarked
        subst spelled
        rw [List.append_assoc, List.append_assoc]
        exact unmarked_here read unmarked _
      | inside written placed =>
        rw [List.append_assoc]
        exact ihBody within (Text.alike_closer behind _) written
      | later written => exact ih later alike written

/-- A copy that must be there in the body of a group is there in the first copy of the group. -/
theorem unmarked_inside {kind : GroupKind} {opening more : Text} {body : Tree} {bounds : Option Repetition}
    (placed : unroller.repeated (opening ++ (unroller.expansion body ++ [')'])) bounds =
      opening ++ (unroller.expansion body ++ [')']) ++ more)
    (unmarked : ∀ before copy after, unroller.Mandatory (.group kind opening body bounds :: tree) before copy after →
      startsMark (after ++ other) = false) (before copy after : Text)
    (written : unroller.Mandatory body before copy after) :
    startsMark (after ++ ')' :: (more ++ unroller.expansion tree ++ other)) = false := by
  have first := unmarked ([] ++ (opening ++ before)) copy _ (.inside written placed)
  rwa [List.append_assoc] at first

/-- Where each group is written, a question mark does harm wherever it stands behind a quantifier that writes
no optional copy. -/
theorem apart_of_unmarked (spells : Spells Tree.Verbatim afterClose text tree rest)
    (writing : Writing unroller.ceiling (scanAll afterClose text)) (alike : Text.Alike rest other)
    (behind : ∀ later, Apart unroller.ceiling startsMark (scanAll later rest))
    (unmarked : ∀ before copy after, unroller.Mandatory tree before copy after →
      startsMark (after ++ other) = false) :
    Apart unroller.ceiling startsMark (scanAll afterClose text) := by
  induction spells generalizing other with
  | atEnd => exact behind _
  | atCloser => exact behind _
  | copied read isText _ ih =>
    obtain ⟨unfinished, unclosed, -⟩ := Token.isText_ne isText
    rw [scanAll_of_scan read unfinished unclosed]
    refine AtBounds.other (Token.isText_ne_quantifier isText) ?_
    refine ih (writing.next read unfinished unclosed) alike behind fun before copy after written => ?_
    obtain ⟨_, written⟩ := written.join_plain
    exact unmarked _ copy after written
  | @reference _ _ _ _ name part _ read found _ ih =>
    obtain rfl : part = .plain ('@' :: name) := found
    rw [scanAll_of_scan read (by simp) (by simp)]
    refine AtBounds.other (by simp) ?_
    refine ih (writing.next read (by simp) (by simp)) alike behind fun before copy after written => ?_
    obtain ⟨_, written⟩ := written.join_plain
    exact unmarked _ copy after written
  | @bare _ _ _ after _ _ _ _ _ read inner _ _ ihBody ih =>
    have within := writing.next read (by simp) (by simp)
    have later := ih (within.behind inner) alike behind fun before copy after written =>
      unmarked _ copy after (.later written)
    rw [scanAll_of_scan read (by simp) (by simp)]
    refine AtBounds.other (by simp) (ihBody within (Text.alike_closer after _) (fun follows => ?_)
      (unmarked_inside (List.append_nil _).symm unmarked))
    rw [scanAll_closer]
    exact AtBounds.other (by simp) later
  | @quantified _ _ _ after _ _ opening raw kind body tree bounds read inner quantifier stated more ihBody ih =>
    have within := writing.next read (by simp) (by simp)
    have next := within.behind inner
    have beyond := next.next quantifier (by simp) (by simp)
    rw [scanAll_of_scan quantifier (by simp) (by simp)] at next
    rw [scanAll_of_scan read (by simp) (by simp)]
    cases bounds with
    | none =>
      have later := ih beyond alike behind fun before copy after written => by
        obtain ⟨_, written⟩ := written.join_plain
        exact unmarked _ copy after (.later written)
      refine AtBounds.other (by simp) (ihBody within (Text.alike_closer after _) (fun follows => ?_)
        (unmarked_inside (List.append_nil _).symm unmarked))
      rw [scanAll_closer, scanAll_of_scan quantifier (by simp) (by simp)]
      exact AtBounds.other (by simp) (.unbounded stated later)
    | some repetition =>
      have later := ih beyond alike behind fun before copy after written =>
        unmarked _ copy after (.later written)
      have written := next [] raw _ repetition 0 rfl (stated 0)
      obtain ⟨_, placed⟩ := Unroller.repeated_eq_append (opening ++ (unroller.expansion body ++ [')'])) written
      refine AtBounds.other (by simp) (ihBody within (Text.alike_closer after _) (fun follows => ?_)
        (unmarked_inside placed unmarked))
      rw [scanAll_closer, scanAll_of_scan quantifier (by simp) (by simp)]
      refine AtBounds.other (by simp) (.quantifier (stated 0) ⟨written, fun short => ?_⟩ later)
      -- the last copy must be there, and behind it stands what is behind the quantifier
      have counted : repetition.min.toNat - 1 + 1 + 0 = repetition.min.toNat := by omega
      have none_optional : (repetition.optionalCount unroller.ceiling).toNat = 0 := by
        unfold Repetition.optionalCount
        omega
      have last := unmarked _ _ _ (.here rfl counted)
      simp only [none_optional, List.replicate_zero, List.flatten_nil, List.nil_append] at last
      rwa [flatMap_source_scanAll, startsMark, (more.alike_expansion beyond alike).head?_eq]

/-- A quantifier in what spells a tree without bounds states none. -/
theorem unbounded_of_settled {raw : Text} (spells : Spells Tree.Verbatim afterClose text tree rest)
    (settled : tree.Settled) (member : .quantifier raw ∈ scanAll afterClose text) :
    (∀ position, Repetition.ofQuantifier raw position = .ok none) ∨
      ∀ later, .quantifier raw ∈ scanAll later rest := by
  induction spells with
  | atEnd => exact absurd member (by simp [scanAll])
  | atCloser =>
    rw [scanAll_closer] at member
    exact .inr fun later => (scanAll_closer later _).symm ▸ member
  | copied read isText _ ih =>
    obtain ⟨unfinished, unclosed, -⟩ := Token.isText_ne isText
    rw [scanAll_of_scan read unfinished unclosed, List.mem_cons] at member
    rw [Tree.settled_join] at settled
    rcases member with same | member
    · exact absurd same.symm (Token.isText_ne_quantifier isText raw)
    · exact ih settled.2 member
  | reference read _ _ ih =>
    rw [scanAll_of_scan read (by simp) (by simp), List.mem_cons] at member
    rw [Tree.settled_join] at settled
    exact ih settled.2 (member.resolve_left (by simp))
  | bare read _ _ _ ihBody ih =>
    rw [scanAll_of_scan read (by simp) (by simp), List.mem_cons] at member
    rw [Tree.settled_cons, Part.Settled] at settled
    rcases ihBody settled.1.2 (member.resolve_left (by simp)) with none | behind
    · exact .inl none
    · have member := behind true
      rw [scanAll_closer, List.mem_cons] at member
      exact ih settled.2 (member.resolve_left (by simp))
  | @quantified _ _ _ _ _ _ _ _ _ _ _ bounds read _ quantifier stated _ ihBody ih =>
    rw [scanAll_of_scan read (by simp) (by simp), List.mem_cons] at member
    cases bounds with
    | some repetition =>
      rw [Tree.quantify, Tree.settled_cons, Part.Settled] at settled
      exact absurd settled.1.1 (by simp)
    | none =>
      rw [Tree.quantify, Tree.settled_cons, Part.Settled, Tree.settled_join] at settled
      rcases ihBody settled.1.2 (member.resolve_left (by simp)) with none | behind
      · exact .inl none
      · have member := behind true
        rw [scanAll_closer, List.mem_cons, scanAll_of_scan quantifier (by simp) (by simp),
          List.mem_cons] at member
        rcases member.resolve_left (by simp) with same | member
        · obtain rfl := Token.quantifier.inj same
          exact .inl stated
        · exact ih settled.2.2 member

end Spells

/-- Text that spells a tree without bounds is unrolled to itself under any ceiling. -/
theorem unrollPattern_of_settled {table : AliasTable} {text : Text} {tree : Tree}
    (off : table.replacing = false) (spells : Spells Tree.Verbatim false text tree [])
    (settled : tree.Settled) (ceiling : UInt64) : unrollPattern table ceiling text = .ok text := by
  have source := spells.eq_source_of_settled settled
  rw [List.append_nil] at source
  rw [unrollPattern_of_ofPattern ((Tree.ofPattern_eq_ok_iff_of_off off).mpr spells), Unroller.unroll,
    Unroller.emit_of_settled _ settled, ← source]

/-- With references left alone, unrolled text has no bounds left and is unrolled to itself if no text behind
a copy gives it bounds, and a copy that must be there has a question mark behind it only if one stands behind
a quantifier that writes no optional copy. -/
theorem unrolled_apart {table : AliasTable} {ceiling : UInt64} {pattern output : Text}
    (off : table.replacing = false) (unrolled : unrollPattern table ceiling pattern = .ok output) :
    (Apart ceiling startsQuantifier (scanAll false pattern) →
      (∀ raw position, .quantifier raw ∈ scanAll false output →
        Repetition.ofQuantifier raw position = .ok none) ∧
      ∀ other, unrollPattern table other output = .ok output) ∧
    ∃ tree, Tree.ofPattern table pattern = .ok tree ∧
      (∀ before copy after, (Unroller.ofTable table ceiling).Mandatory tree before copy after →
        output = before ++ (copy ++ after)) ∧
      (Writing ceiling (scanAll false pattern) →
        (Apart ceiling startsMark (scanAll false pattern) ↔
          ∀ before copy after, (Unroller.ofTable table ceiling).Mandatory tree before copy after →
            startsMark after = false)) := by
  obtain ⟨tree, read, written⟩ := bind_eq_ok.mp unrolled
  obtain rfl := Unroller.eq_expansion_of_emit tree written
  have spells := (Tree.ofPattern_eq_ok_iff_of_off off).mp read
  refine ⟨fun apart => ?_, tree, read, fun before copy after mandatory => mandatory.expansion_eq, fun writing => ?_⟩
  · have again : Spells Tree.Verbatim false ((Unroller.ofTable table ceiling).expansion tree ++ [])
        (Tree.unrolled ceiling tree) [] := spells.spells_expansion apart (.refl [])
    rw [List.append_nil] at again
    have settled := spells.settled_unrolled ceiling
    refine ⟨fun raw position member => ?_, unrollPattern_of_settled off again settled⟩
    rcases again.unbounded_of_settled settled member with none | behind
    · exact none position
    · exact absurd (behind false) (by simp [scanAll])
  · constructor
    · intro apart before copy after mandatory
      have unmarked := spells.unmarked apart (.refl []) mandatory
      rwa [List.append_nil] at unmarked
    · intro unmarked
      have ended (later : Bool) : Apart (Unroller.ofTable table ceiling).ceiling startsMark (scanAll later []) := by
        rw [scanAll]
        exact AtBounds.other (by simp) .nil
      refine spells.apart_of_unmarked writing (.refl []) ended fun before copy after mandatory => ?_
      rw [List.append_nil]
      exact unmarked before copy after mandatory

/-- Stars stay text behind an optional copy, and plain text may stand behind any. -/
theorem unrolled_apart_optional :
    AliasTable.empty.replacing = false ∧
    unrollPattern .empty 2 "(a)+*(b)\x7b2\x7dc".toList = .ok "(a)(a)?*(b)(b)c".toList ∧
    (∀ raw position, .quantifier raw ∈ scanAll false "(a)(a)?*(b)(b)c".toList →
      Repetition.ofQuantifier raw position = .ok none) ∧
    (∀ other, unrollPattern .empty other "(a)(a)?*(b)(b)c".toList = .ok "(a)(a)?*(b)(b)c".toList) ∧
    ∃ tree, Tree.ofPattern .empty "(a)+*(b)\x7b2\x7dc".toList = .ok tree ∧
      ∀ before copy after, (Unroller.ofTable .empty 2).Mandatory tree before copy after →
        "(a)(a)?*(b)(b)c".toList = before ++ (copy ++ after) ∧ startsMark after = false := by
  have off : AliasTable.empty.replacing = false := rfl
  have unrolled : unrollPattern .empty 2 "(a)+*(b)\x7b2\x7dc".toList = .ok "(a)(a)?*(b)(b)c".toList := by
    decide +kernel
  have tokens : scanAll false "(a)+*(b)\x7b2\x7dc".toList =
      [.opener .capturing ['('], .plain ['a'], .closer, .quantifier ['+'], .plain ['*'],
        .opener .capturing ['('], .plain ['b'], .closer, .quantifier "\x7b2\x7d".toList, .plain ['c'],
        .endOfInput] := by
    decide +kernel
  have apart {stops : Text → Bool} (harmless : stops ['c'] = false) :
      Apart 2 stops (scanAll false "(a)+*(b)\x7b2\x7dc".toList) := by
    rw [tokens]
    have last : Apart 2 stops [.plain ['c'], .endOfInput] :=
      .other (by simp) (.other (by simp) .nil)
    have braces : Apart 2 stops [.quantifier "\x7b2\x7d".toList, .plain ['c'], .endOfInput] :=
      .quantifier rfl ⟨by decide, fun _ => harmless⟩ last
    have second : Apart 2 stops (.plain ['*'] :: .opener .capturing ['('] :: .plain ['b'] :: .closer :: _) :=
      .other (by simp) (.other (by simp) (.other (by simp) (.other (by simp) braces)))
    have plus : Apart 2 stops (.quantifier ['+'] :: _) :=
      .quantifier rfl ⟨by decide, fun short => absurd short (by decide)⟩ second
    exact .other (by simp) (.other (by simp) (.other (by simp) plus))
  obtain ⟨unbounded, tree, read, whole, unmarked⟩ := unrolled_apart off unrolled
  obtain ⟨none_stated, same⟩ := unbounded (apart (by decide))
  have marks : Apart 2 startsMark (scanAll false "(a)+*(b)\x7b2\x7dc".toList) := apart (by decide)
  refine ⟨off, unrolled, none_stated, same, tree, read, fun before copy after mandatory => ?_⟩
  exact ⟨whole before copy after mandatory, (unmarked marks.writing).mp marks before copy after mandatory⟩

/-- What stands behind a quantifier may give the last copy bounds again, or make it optional. -/
theorem unrolled_joined :
    unrollPattern .empty 2 "(a)\x7b2\x7d*".toList = .ok "(a)(a)*".toList ∧
      .quantifier ['*'] ∈ scanAll false "(a)(a)*".toList ∧
      Repetition.ofQuantifier ['*'] 6 = .ok (some ⟨0, .unbounded⟩) ∧
      unrollPattern .empty 2 "(a)(a)*".toList = .ok "(a)(a)?(a)?".toList ∧
      unrollPattern .empty 2 "(x)\x7b2\x7d?".toList = .ok "(x)(x)?".toList ∧
      ∃ tree, Tree.ofPattern .empty "(x)\x7b2\x7d?".toList = .ok tree ∧
        (Unroller.ofTable .empty 2).Mandatory tree "(x)".toList "(x)".toList ['?'] := by
  have off : AliasTable.empty.replacing = false := rfl
  have again : unrollPattern .empty 2 "(a)\x7b2\x7d*".toList = .ok "(a)(a)*".toList := by decide +kernel
  have bounded : .quantifier ['*'] ∈ scanAll false "(a)(a)*".toList := by decide +kernel
  have more : unrollPattern .empty 2 "(a)(a)*".toList = .ok "(a)(a)?(a)?".toList := by decide +kernel
  have marked : unrollPattern .empty 2 "(x)\x7b2\x7d?".toList = .ok "(x)(x)?".toList := by decide +kernel
  have stated (position : Nat) : Repetition.ofQuantifier "\x7b2\x7d".toList position = .ok (some ⟨2, .atMost 2⟩) := by
    have first : Repetition.ofQuantifier "\x7b2\x7d".toList 0 = .ok (some ⟨2, .atMost 2⟩) := rfl
    exact Repetition.ofQuantifier_position first position
  have scanned : scan false "x)\x7b2\x7d?".toList = (.plain ['x'], ")\x7b2\x7d?".toList) := by decide +kernel
  have last : scan false ['?'] = (.plain ['?'], []) := by decide +kernel
  have inner : Spells Tree.Verbatim false _ (Tree.join (.plain ['x']) []) _ := .copied scanned rfl .atCloser
  have mark : Spells Tree.Verbatim false _ (Tree.join (.plain ['?']) []) _ := .copied last rfl .atEnd
  have spells : Spells Tree.Verbatim false "(x)\x7b2\x7d?".toList
      [.group .capturing ['('] [.plain ['x']] (some ⟨2, .atMost 2⟩), .plain ['?']] [] :=
    .quantified (by decide +kernel) inner (by decide +kernel) stated mark
  have read := (Tree.ofPattern_eq_ok_iff_of_off off).mpr spells
  have spelled : ['('] ++ ((Unroller.ofTable .empty 2).expansion [.plain ['x']] ++ [')']) = "(x)".toList := by
    decide
  have second : (Unroller.ofTable .empty 2).Mandatory
      [.group .capturing ['('] [.plain ['x']] (some ⟨2, .atMost 2⟩), .plain ['?']]
      (List.replicate 1 "(x)".toList).flatten "(x)".toList ((List.replicate 0 "(x)".toList).flatten ++
        ((List.replicate 0 ("(x)".toList ++ ['?'])).flatten ++
          (Unroller.ofTable .empty 2).expansion [.plain ['?']])) := .here spelled rfl
  rw [Unroller.expansion_cons, Unroller.expansionOfPart_plain, Unroller.expansion_nil] at second
  exact ⟨again, bounded, rfl, more, marked, _, read, second⟩

end GroupUnroll
