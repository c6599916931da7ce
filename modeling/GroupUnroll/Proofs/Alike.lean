import GroupUnroll.Pattern.Cursor
import Mathlib.Tactic.SplitIfs

/-! # How far a token looks

A token other than a quantifier is settled by the text up to the first closing parenthesis behind it: names,
flags and comments do not go past one, and a run of plain text goes past one only inside a class, which
it takes in as a whole. So a token that is read before a text is read before every text alike to it,
that is, one that is the same through a closing parenthesis. `scan_alike` says this for one token;
everything that is said about texts written anew rests on it.
-/

namespace GroupUnroll

namespace Text

/-- Equal texts, or texts that are the same through some closing parenthesis. -/
def Alike (first second : Text) : Prop :=
  first = second ∨
    ∃ shared tail other, first = shared ++ ')' :: tail ∧ second = shared ++ ')' :: other

theorem Alike.refl (text : Text) : Alike text text := .inl rfl

theorem alike_closer (tail other : Text) : Alike (')' :: tail) (')' :: other) :=
  .inr ⟨[], tail, other, rfl, rfl⟩

theorem Alike.append {first second : Text} (alike : Alike first second) (whole : Text) :
    Alike (whole ++ first) (whole ++ second) := by
  rcases alike with rfl | ⟨shared, tail, other, rfl, rfl⟩
  · exact .refl _
  · exact .inr ⟨whole ++ shared, tail, other, (List.append_assoc ..).symm, (List.append_assoc ..).symm⟩

theorem Alike.head?_eq {first second : Text} (alike : Alike first second) :
    first.head? = second.head? := by
  rcases alike with rfl | ⟨shared, tail, other, rfl, rfl⟩
  · rfl
  · cases shared <;> rfl

theorem Alike.eq_nil {second : Text} (alike : Alike [] second) : second = [] := by
  have same := alike.head?_eq
  exact List.head?_eq_none_iff.mp (same.symm.trans rfl)

theorem Alike.eq_cons {c : Char} {tail second : Text} (alike : Alike (c :: tail) second) :
    ∃ other, second = c :: other :=
  List.head?_eq_some_iff.mp (alike.head?_eq.symm.trans rfl)

/-- What is left of a run of characters that cannot go past `stop`. -/
theorem dropWhile_append_stop {keep : Char → Bool} {stop : Char} (stops : keep stop = false)
    (shared tail : Text) :
    (shared ++ stop :: tail).dropWhile keep = shared.dropWhile keep ++ stop :: tail := by
  induction shared with
  | nil => simp [stops]
  | cons c rest ih =>
    cases kept : keep c <;> simp [kept, ih]

theorem takeWhile_append_stop {keep : Char → Bool} {stop : Char} (stops : keep stop = false)
    (shared tail : Text) :
    (shared ++ stop :: tail).takeWhile keep = shared.takeWhile keep := by
  induction shared with
  | nil => simp [stops]
  | cons c rest ih =>
    cases kept : keep c <;> simp [kept, ih]

theorem before_cons {rest tail : Text} (c : Char) (suffix : rest <:+ tail) :
    before (c :: tail) rest = c :: before tail rest := by
  have shorter := suffix.length_le
  rw [before, before, List.length_cons, Nat.succ_sub shorter, List.take_succ_cons]

theorem before_self (text : Text) : before text text = [] := by simp [before]

/-- Text through a character does not depend on what follows the character. -/
theorem before_dropThrough_append (stop : Char) (shared tail other : Text) :
    before (shared ++ stop :: tail) (dropThrough stop (shared ++ stop :: tail)) =
      before (shared ++ stop :: other) (dropThrough stop (shared ++ stop :: other)) := by
  induction shared with
  | nil =>
    simp only [List.nil_append, dropThrough, ↓reduceIte]
    rw [before_cons _ (List.suffix_refl _), before_cons _ (List.suffix_refl _), before_self, before_self]
  | cons c rest ih =>
    simp only [List.cons_append, dropThrough]
    split
    · rw [before_cons _ (List.suffix_refl _), before_cons _ (List.suffix_refl _), before_self, before_self]
    · rw [before_cons _ (dropThrough_suffix _ _), before_cons _ (dropThrough_suffix _ _), ih]

theorem before_append_self (taken rest : Text) : before (taken ++ rest) rest = taken := by
  rw [before, List.length_append, Nat.add_sub_cancel, List.take_left]

/-- A scanning rule that looks no further than a closing parenthesis reads one token off alike texts. -/
theorem Alike.congr {α : Type} {first second : Text} (alike : Alike first second)
    (rule : Text → α)
    (closer : ∀ shared tail tail', rule (shared ++ ')' :: tail) = rule (shared ++ ')' :: tail')) :
    rule first = rule second := by
  rcases alike with rfl | ⟨shared, tail, other, rfl, rfl⟩
  · rfl
  · exact closer shared tail other

end Text

/-! ## Openers and references -/

theorem scanName?_closer (spelling : Text) {stop : Char} (other : stop ≠ ')') (shared tail tail' : Text) :
    (scanName? spelling stop (shared ++ ')' :: tail)).map Prod.fst =
      (scanName? spelling stop (shared ++ ')' :: tail')).map Prod.fst := by
  have stops : isNameChar ')' = false := by decide
  unfold scanName?
  rw [Text.takeWhile_append_stop stops, Text.takeWhile_append_stop stops,
    Text.dropWhile_append_stop stops, Text.dropWhile_append_stop stops]
  cases shared.dropWhile isNameChar with
  | nil => simp [other.symm]
  | cons c rest =>
    simp only [List.cons_append]
    split <;> rfl

theorem scanNamed?_closer (shared tail tail' : Text) :
    (scanNamed? (shared ++ ')' :: tail)).map Prod.fst = (scanNamed? (shared ++ ')' :: tail')).map Prod.fst := by
  rcases shared with _ | ⟨c, rest⟩
  · rfl
  by_cases angle : c = '<'
  · subst angle
    exact scanName?_closer _ (by decide) rest tail tail'
  by_cases quote : c = '\x27'
  · subst quote
    exact scanName?_closer _ (by decide) rest tail tail'
  by_cases letter : c = 'P'
  · subst letter
    rcases rest with _ | ⟨d, rest⟩
    · rfl
    by_cases angle : d = '<'
    · subst angle
      exact scanName?_closer _ (by decide) rest tail tail'
    · simp [scanNamed?, angle]
  · simp [scanNamed?, angle, quote, letter]

theorem scanFlags_closer (shared tail tail' : Text) :
    (scanFlags (shared ++ ')' :: tail)).1 = (scanFlags (shared ++ ')' :: tail')).1 := by
  have stops : isFlagChar ')' = false := by decide
  unfold scanFlags
  rw [Text.takeWhile_append_stop stops, Text.takeWhile_append_stop stops,
    Text.dropWhile_append_stop stops, Text.dropWhile_append_stop stops]
  cases shared.dropWhile isFlagChar with
  | nil =>
    simp
    split <;> rfl
  | cons c rest =>
    simp only [List.cons_append]
    split
    · rfl
    split <;> rfl

/-- A construct that is neither spelled in a fixed way nor a comment. -/
theorem unfixed_closer (shared tail tail' : Text) :
    ((scanNamed? (shared ++ ')' :: tail)).getD (scanFlags (shared ++ ')' :: tail))).1 =
      ((scanNamed? (shared ++ ')' :: tail')).getD (scanFlags (shared ++ ')' :: tail'))).1 := by
  have named := scanNamed?_closer shared tail tail'
  have flags := scanFlags_closer shared tail tail'
  cases first : scanNamed? (shared ++ ')' :: tail) <;>
    cases second : scanNamed? (shared ++ ')' :: tail') <;> simp_all

theorem scanSpecial_closer (shared tail tail' : Text) :
    (scanSpecial (shared ++ ')' :: tail)).1 = (scanSpecial (shared ++ ')' :: tail')).1 := by
  have unfixed := unfixed_closer shared tail tail'
  rcases shared with _ | ⟨c, rest⟩
  · rfl
  by_cases fixed : c ∈ [':', '=', '!', '>', '#', '<']
  · simp only [List.mem_cons, List.not_mem_nil, or_false] at fixed
    rcases fixed with rfl | rfl | rfl | rfl | rfl | rfl
    · rfl
    · rfl
    · rfl
    · rfl
    · exact congrArg (fun text => Token.plain ('(' :: '?' :: text))
        (Text.before_dropThrough_append ')' ('#' :: rest) tail tail')
    · rcases rest with _ | ⟨d, rest⟩
      · exact unfixed
      by_cases look : d ∈ ['=', '!']
      · simp only [List.mem_cons, List.not_mem_nil, or_false] at look
        rcases look with rfl | rfl <;> rfl
      · simp only [List.mem_cons, List.not_mem_nil, or_false, not_or] at look
        simpa [scanSpecial, look.1, look.2] using unfixed
  · simp only [List.mem_cons, List.not_mem_nil, or_false, not_or] at fixed
    obtain ⟨h1, h2, h3, h4, h5, h6⟩ := fixed
    simpa [scanSpecial, h1, h2, h3, h4, h5, h6] using unfixed

theorem scanOpener_closer (shared tail tail' : Text) :
    (scanOpener (shared ++ ')' :: tail)).1 = (scanOpener (shared ++ ')' :: tail')).1 := by
  rcases shared with _ | ⟨c, rest⟩
  · rfl
  by_cases mark : c = '?'
  · subst mark
    exact scanSpecial_closer rest tail tail'
  · simp [scanOpener, mark]

theorem scanReference_closer (shared tail tail' : Text) :
    (scanReference (shared ++ ')' :: tail)).1 = (scanReference (shared ++ ')' :: tail')).1 := by
  have stops : isAliasChar ')' = false := by decide
  unfold scanReference
  rw [Text.takeWhile_append_stop stops, Text.takeWhile_append_stop stops]
  cases shared.takeWhile isAliasChar <;> rfl

/-! ## Classes and plain text -/

theorem dropClassFrom_length_lt (outer : Nat) (place : ClassPlace) (c : Char) (rest : Text) :
    (dropClassFrom outer place (c :: rest)).length < (c :: rest).length := by
  have shorter (outer : Nat) (place : ClassPlace) :
      (dropClassFrom outer place rest).length < (c :: rest).length :=
    Nat.lt_succ_of_le (dropClassFrom_suffix outer place rest).length_le
  unfold dropClassFrom
  repeat' split
  all_goals first | exact shorter _ _ | exact Nat.lt_succ_self _

/-- A class that is closed within `inner` is closed there whatever follows. -/
theorem dropClassFrom_append {outer : Nat} {place : ClassPlace} {inner left next : Text}
    (more : next ≠ []) (closed : dropClassFrom outer place (inner ++ next) = left ++ next)
    (other : Text) : dropClassFrom outer place (inner ++ other) = left ++ other := by
  induction inner generalizing outer place with
  | nil =>
    -- a class takes at least one character of the text it stands in
    obtain ⟨c, rest, rfl⟩ := List.exists_cons_of_ne_nil more
    have shorter := dropClassFrom_length_lt outer place c rest
    have length := congrArg List.length closed
    simp only [List.nil_append, List.length_append] at length
    omega
  | cons c rest ih =>
    simp only [List.cons_append, dropClassFrom] at closed ⊢
    split_ifs at closed ⊢
    · exact ih closed
    · exact ih closed
    · exact ih closed
    · cases outer with
      | zero =>
        obtain rfl := List.append_cancel_right closed
        rfl
      | succ outer => exact ih closed
    · exact ih closed
    · exact ih closed

theorem dropClass_append {inner left next : Text} (more : next ≠ [])
    (closed : dropClass (inner ++ next) = left ++ next) (other : Text) :
    dropClass (inner ++ other) = left ++ other :=
  dropClassFrom_append more closed other

/-- A run of plain text that ends before a character ends there whatever follows that character. -/
theorem dropPlainText_append {c : Char} (ends : endsPlainText c = true) (tail other : Text) :
    ∀ run : Text, dropPlainText (run ++ c :: tail) = c :: tail →
      dropPlainText (run ++ c :: other) = c :: other
  | [], _ => by simp [dropPlainText, ends]
  | d :: run, taken => by
    rw [List.cons_append, dropPlainText] at taken ⊢
    split at taken
    · have length := congrArg List.length taken
      simp only [List.length_cons, List.length_append] at length
      omega
    · rename_i goesOn
      split at taken
      · rename_i bracket
        obtain ⟨left, closed⟩ : c :: tail <:+ dropClass (run ++ c :: tail) := by
          have suffix := dropPlainText_suffix (dropClass (run ++ c :: tail))
          rwa [taken] at suffix
        have shorter : left.length ≤ run.length := by
          have length := (dropClass_suffix (run ++ c :: tail)).length_le
          rw [← closed] at length
          simp only [List.length_append] at length
          omega
        rw [← closed] at taken
        rw [if_neg goesOn, if_pos bracket, dropClass_append (by simp) closed.symm (c :: other)]
        exact dropPlainText_append ends tail other left taken
      · rename_i bracket
        rw [if_neg goesOn, if_neg bracket]
        exact dropPlainText_append ends tail other run taken
termination_by run => run.length
decreasing_by all_goals (simp only [List.length_cons]; omega)

theorem dropPlainText_head (text : Text) :
    ∀ c ∈ (dropPlainText text).head?, endsPlainText c = true := by
  fun_induction dropPlainText text with
  | case1 => simp
  | case2 c rest ends => simpa using ends
  | case3 rest _ ih => exact ih
  | case4 c rest _ _ ih => exact ih

theorem dropPlainText_alike {run next other : Text} (taken : dropPlainText (run ++ next) = next)
    (alike : Text.Alike next other) : dropPlainText (run ++ other) = other := by
  cases next with
  | nil => rwa [alike.eq_nil]
  | cons c tail =>
    have ends := dropPlainText_head (run ++ c :: tail) c (by rw [taken]; rfl)
    obtain ⟨tail', rfl⟩ := alike.eq_cons
    exact dropPlainText_append ends tail tail' run taken

/-! ## One token -/

theorem scanEscape_append {source next other : Text} {token : Token}
    (read : scanEscape (source ++ next) = (token, next)) (alike : Text.Alike next other) :
    (scanEscape (source ++ other)).1 = token := by
  rcases source with _ | ⟨c, source⟩
  · rcases next with _ | ⟨c, rest⟩
    · rw [alike.eq_nil]
      exact congrArg Prod.fst read
    · have shorter := congrArg (fun result => result.2.length) read
      simp [scanEscape] at shorter
  · exact congrArg Prod.fst read

theorem source_append_of_scan {afterClose : Bool} {text next : Text} {token : Token}
    (read : scan afterClose text = (token, next)) : token.source ++ next = text := by
  have whole := scan_source afterClose text
  rwa [read] at whole

/-- The token that starts a text starts every text with the same token and an alike rest. -/
theorem scan_alike {afterClose : Bool} {text next other : Text} {token : Token}
    (read : scan afterClose text = (token, next)) (unquantified : ∀ raw, token ≠ .quantifier raw)
    (alike : Text.Alike next other) :
    scan afterClose (token.source ++ other) = (token, other) := by
  obtain rfl := source_append_of_scan read
  suffices same : (scan afterClose (token.source ++ other)).1 = token by
    have source := scan_source afterClose (token.source ++ other)
    rw [same] at source
    exact Prod.ext same (List.append_cancel_left source)
  cases spelled : token.source with
  | nil =>
    rcases next with _ | ⟨c, rest⟩
    · rw [alike.eq_nil]
      rw [spelled] at read
      exact congrArg Prod.fst read
    · rw [spelled] at read
      have nonempty := scan_source_ne_nil afterClose c rest
      rw [← List.nil_append (c :: rest), read] at nonempty
      exact absurd spelled nonempty
  | cons c source =>
    rw [spelled] at read
    simp only [List.cons_append, scan] at read ⊢
    have inner := alike.append source
    split_ifs at read ⊢ with backslash opening closing sign brace reference
    · exact scanEscape_append read alike
    · rw [← inner.congr (fun text => (scanOpener text).1) scanOpener_closer, read]
    · exact congrArg Prod.fst read
    · exact absurd (congrArg Prod.fst read).symm (unquantified _)
    · exact absurd (congrArg Prod.fst read).symm (unquantified _)
    · rw [← inner.congr (fun text => (scanReference text).1) scanReference_closer, read]
    · obtain ⟨rfl, taken⟩ := Prod.mk.inj read
      have run : dropPlainText ((c :: source) ++ other) = other := dropPlainText_alike taken alike
      rw [List.cons_append] at run
      change Token.plain _ = Token.plain _
      rw [run, taken, ← List.cons_append, ← List.cons_append, Text.before_append_self,
        Text.before_append_self]

end GroupUnroll
