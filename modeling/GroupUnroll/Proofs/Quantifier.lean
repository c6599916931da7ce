import GroupUnroll.Proofs.Alike
import GroupUnroll.Repetition.Reading
import Mathlib.Tactic.SplitIfs

/-! # Quantifiers as they are written and read

The shortest spelling of bounds reads back as the same bounds, and as one token wherever it follows
a closing parenthesis. Where a quantifier stands decides only the positions in refusals: `Numeral.Alike`
and `BraceText.Alike` relate two readings that differ in positions alone.
-/

namespace GroupUnroll

namespace Numeral

/-- Numbers read from the same digits at different positions. -/
structure Alike (first second : Numeral) : Prop where
  value : first.value = second.value
  begun : first.first.isSome = second.first.isSome

theorem Alike.refl (numeral : Numeral) : Alike numeral numeral := ⟨rfl, rfl⟩

theorem Alike.push {first second : Numeral} (alike : Alike first second) (position other : Nat)
    (digit : Char) : Alike (first.push position digit) (second.push other digit) :=
  ⟨by simp only [Numeral.push, alike.value], rfl⟩

theorem Alike.bound {first second : Numeral} (alike : Alike first second) {bound : Option UInt64}
    (read : first.bound = .ok bound) : second.bound = .ok bound := by
  have begun := alike.begun
  unfold Numeral.bound at read ⊢
  rw [← alike.value]
  cases start : first.first with
  | none =>
    rw [start] at begun read
    rw [Option.isSome_eq_false_iff.mp begun.symm |> Option.isNone_iff_eq_none.mp]
    exact read
  | some digit =>
    rw [start] at begun read
    obtain ⟨other, start'⟩ := Option.isSome_iff_exists.mp begun.symm
    rw [start']
    dsimp only at read ⊢
    split_ifs at read ⊢ with fits
    exact read

end Numeral

namespace BraceText

theorem mem_of_read {opened position : Nat} {first done : BraceText} {text : Text}
    (closed : read opened position first text = .ok done) : '\x7d' ∈ text := by
  induction text generalizing first position with
  | nil => exact absurd closed (by simp [read])
  | cons c rest ih =>
    rw [read] at closed
    split_ifs at closed with brace blank digit comma
    · exact brace ▸ List.mem_cons_self ..
    all_goals exact List.mem_cons_of_mem _ (ih closed)

/-- Braces read alike up to different positions. -/
structure Alike (first second : BraceText) : Prop where
  lower : Numeral.Alike first.lower second.lower
  comma : first.comma = second.comma
  upper : Numeral.Alike first.upper second.upper

theorem Alike.push {first second : BraceText} (alike : Alike first second) (position other : Nat)
    (digit : Char) : Alike (first.push position digit) (second.push other digit) := by
  unfold BraceText.push
  rw [alike.comma]
  split
  · exact ⟨alike.lower, rfl, alike.upper.push position other digit⟩
  · exact ⟨alike.lower.push position other digit, rfl, alike.upper⟩

theorem Alike.read {first second done : BraceText} (alike : Alike first second)
    (opened opened' position position' : Nat) (text : Text)
    (closed : BraceText.read opened position first text = .ok done) :
    ∃ done', BraceText.read opened' position' second text = .ok done' ∧ Alike done done' := by
  induction text generalizing first second position position' with
  | nil => exact absurd closed (by simp [BraceText.read])
  | cons c rest ih =>
    simp only [BraceText.read] at closed ⊢
    rw [← alike.comma]
    split_ifs at closed ⊢ with brace blank digit comma
    · obtain rfl := Except.ok.inj closed
      exact ⟨second, rfl, alike⟩
    · exact ih alike _ _ closed
    · exact ih (alike.push _ _ c) _ _ closed
    · have marked : Alike { first with comma := true } { second with comma := true } :=
        ⟨alike.lower, rfl, alike.upper⟩
      exact ih marked _ _ closed

theorem Alike.bounds {first second : BraceText} (alike : Alike first second)
    {bounds : Option Repetition} (stated : first.bounds = .ok bounds) : second.bounds = .ok bounds := by
  unfold BraceText.bounds at stated ⊢
  rw [← alike.comma]
  cases lower : first.lower.bound with
  | error refusal => rw [lower] at stated; cases stated
  | ok least =>
    cases upper : first.upper.bound with
    | error refusal => rw [lower, upper] at stated; cases stated
    | ok greatest =>
      rw [lower, upper] at stated
      rw [alike.lower.bound lower, alike.upper.bound upper]
      exact stated

end BraceText

/-- Where a quantifier stands does not change the bounds it states. -/
theorem Repetition.ofQuantifier_position {raw : Text} {position : Nat} {bounds : Option Repetition}
    (stated : Repetition.ofQuantifier raw position = .ok bounds) (other : Nat) :
    Repetition.ofQuantifier raw other = .ok bounds := by
  unfold Repetition.ofQuantifier at stated ⊢
  split at stated
  · exact stated
  · exact stated
  · rename_i inner
    cases closed : BraceText.read position (position + 1) .empty inner with
    | error refusal => rw [closed] at stated; cases stated
    | ok done =>
      rw [closed] at stated
      obtain ⟨done', closed', alike⟩ :=
        BraceText.Alike.read ⟨.refl _, rfl, .refl _⟩ position other (position + 1) (other + 1) inner closed
      change (BraceText.read other (other + 1) .empty inner).bind BraceText.bounds = _
      rw [closed']
      exact alike.bounds stated
  · exact stated

/-! ## Where a quantifier stands -/

/-- Whether a text that follows a closing parenthesis starts with a quantifier. -/
def startsQuantifier (text : Text) : Bool :=
  text.head?.any fun c => c == '*' || c == '+' || c == '\x7b'

theorem startsQuantifier_cons {c : Char} {rest : Text} :
    startsQuantifier (c :: rest) = true ↔ c = '*' ∨ c = '+' ∨ c = '\x7b' := by
  simp [startsQuantifier, or_assoc]

theorem scanOpener_ne_quantifier (text raw : Text) : (scanOpener text).1 ≠ .quantifier raw := by
  unfold scanOpener
  split
  · rename_i rest
    unfold scanSpecial
    split <;> try simp [specialOpener, scanComment]
    cases found : scanNamed? rest with
    | none =>
      unfold scanFlags
      split
      · split_ifs <;> simp [specialOpener]
      · simp [specialOpener]
    | some result =>
      unfold scanNamed? at found
      split at found <;> try simp at found
      all_goals
        unfold scanName? at found
        split at found <;> try simp at found
        obtain ⟨-, rfl⟩ := found
        simp [specialOpener]
  · simp

theorem Text.Alike.startsQuantifier_eq {first second : Text} (alike : Text.Alike first second) :
    startsQuantifier first = startsQuantifier second := by
  rw [startsQuantifier, startsQuantifier, alike.head?_eq]

/-- A quantifier is read only after a closing parenthesis, off a star, a plus sign or a brace. -/
theorem startsQuantifier_of_scan {afterClose : Bool} {text next raw : Text}
    (read : scan afterClose text = (.quantifier raw, next)) :
    afterClose = true ∧ startsQuantifier text = true := by
  cases text with
  | nil => exact absurd (congrArg Prod.fst read) (by simp [scan])
  | cons c rest =>
    have quantified := congrArg Prod.fst read
    simp only [scan] at quantified
    split_ifs at quantified with backslash opening closing sign brace reference
    · cases rest <;> simp [scanEscape] at quantified
    · exact absurd quantified (scanOpener_ne_quantifier rest raw)
    · rcases sign.2 with rfl | rfl <;> exact ⟨sign.1, rfl⟩
    · obtain ⟨follows, rfl⟩ := brace
      exact ⟨follows, rfl⟩
    · unfold scanReference at quantified
      split at quantified <;> simp at quantified

theorem scan_of_startsQuantifier {text : Text} (starts : startsQuantifier text = true) :
    ∃ raw next, scan true text = (.quantifier raw, next) := by
  rcases text with _ | ⟨c, rest⟩
  · exact absurd starts (by decide)
  · rcases startsQuantifier_cons.mp starts with rfl | rfl | rfl <;> exact ⟨_, _, rfl⟩

/-- Any other text is read the same wherever it stands. -/
theorem scan_unquantified {text : Text} (unquantified : startsQuantifier text = false)
    (first second : Bool) : scan first text = scan second text := by
  cases text with
  | nil => rfl
  | cons c rest =>
    have star : c ≠ '*' := by rintro rfl; simp [startsQuantifier] at unquantified
    have plus : c ≠ '+' := by rintro rfl; simp [startsQuantifier] at unquantified
    have brace : c ≠ '\x7b' := by rintro rfl; simp [startsQuantifier] at unquantified
    simp only [scan, star, plus, brace, or_self, and_false, ↓reduceIte]

/-- Only a quantifier is read otherwise behind a closing parenthesis than elsewhere. -/
theorem scan_of_no_quantifier {afterClose : Bool} {text next : Text} {token : Token}
    (read : scan afterClose text = (token, next)) (other : ∀ raw, token ≠ .quantifier raw) :
    scan false text = (token, next) := by
  cases starts : startsQuantifier text with
  | false => exact (scan_unquantified starts false afterClose).trans read
  | true =>
    cases afterClose with
    | false => exact read
    | true =>
      obtain ⟨raw, later, quantifier⟩ := scan_of_startsQuantifier starts
      exact absurd (congrArg Prod.fst (read.symm.trans quantifier)) (other raw)

/-! ## Reading a written quantifier -/

theorem Text.dropThrough_append {stop : Char} (inner : Text) (absent : stop ∉ inner) (rest : Text) :
    Text.dropThrough stop (inner ++ stop :: rest) = rest := by
  induction inner with
  | nil => simp [Text.dropThrough]
  | cons c inner ih =>
    rw [List.mem_cons, not_or] at absent
    rw [List.cons_append, Text.dropThrough, if_neg (Ne.symm absent.1), ih absent.2]

/-- Dropping through a character that stands before the rest does not depend on the rest. -/
theorem Text.dropThrough_append_of_mem {stop : Char} {taken next : Text}
    (dropped : Text.dropThrough stop (taken ++ next) = next) (closes : stop ∈ taken) (other : Text) :
    Text.dropThrough stop (taken ++ other) = other := by
  induction taken with
  | nil => exact absurd closes (by simp)
  | cons c taken ih =>
    simp only [List.cons_append, Text.dropThrough] at dropped ⊢
    split at dropped
    · rename_i stops
      obtain rfl : taken = [] := by simpa using dropped
      simp [stops]
    · rename_i goesOn
      rw [if_neg goesOn]
      rcases List.mem_cons.mp closes with rfl | later
      · exact absurd rfl goesOn
      · exact ih dropped later

theorem not_isBlank_of_isDigit {c : Char} (digit : c.isDigit = true) : isBlank c = false := by
  simp only [Char.isDigit, Bool.and_eq_true, decide_eq_true_eq] at digit
  have least : 48 ≤ c.toNat := digit.1
  have greatest : c.toNat ≤ 57 := digit.2
  have space : c ≠ ' ' := by rintro rfl; exact absurd least (by decide)
  have ascii : isAscii c = true := decide_eq_true (by omega)
  rw [isBlank, if_pos ascii, beq_eq_false_iff_ne.mpr space, Bool.false_or]
  exact Bool.and_eq_false_iff.mpr (.inr (decide_eq_false (by omega)))

namespace Numeral

/-- Take the digits of a text that stands at `position`. -/
def pushAll (numeral : Numeral) (position : Nat) : Text → Numeral
  | [] => numeral
  | c :: rest => (numeral.push position c).pushAll (position + c.utf8Size) rest

theorem value_pushAll (numeral : Numeral) (position : Nat) (digits : Text) :
    (numeral.pushAll position digits).value = Nat.ofDigitChars 10 digits numeral.value := by
  induction digits generalizing numeral position with
  | nil => simp [pushAll]
  | cons c rest ih => simp [pushAll, ih, push, Nat.ofDigitChars_cons]

theorem isSome_first_pushAll (numeral : Numeral) (position : Nat) (digits : Text) (nonempty : digits ≠ []) :
    (numeral.pushAll position digits).first.isSome = true := by
  induction digits generalizing numeral position with
  | nil => exact absurd rfl nonempty
  | cons c rest ih =>
    cases rest with
    | nil => rfl
    | cons d rest => exact ih (numeral.push position c) _ (by simp)

/-- The digits of a bound are read as the bound. -/
theorem bound_pushAll_digits (position : Nat) (bound : UInt64) :
    (empty.pushAll position (Repetition.digits bound)).bound = .ok (some bound) := by
  have value : (empty.pushAll position (Repetition.digits bound)).value = bound.toNat :=
    (value_pushAll empty position _).trans Nat.ofDigitChars_ten_toDigits
  obtain ⟨first, begun⟩ := Option.isSome_iff_exists.mp
    (isSome_first_pushAll empty position (Repetition.digits bound) Nat.toDigits_ne_nil)
  unfold Numeral.bound
  rw [begun, value]
  change (if bound.toNat < UInt64.size then _ else _) = _
  rw [if_pos bound.toNat_lt_size, UInt64.ofNat_toNat]

end Numeral

namespace BraceText

/-- Take the digits of a text that stands at `position`. -/
def pushAll (done : BraceText) (position : Nat) (digits : Text) : BraceText :=
  if done.comma then { done with upper := done.upper.pushAll position digits }
  else { done with lower := done.lower.pushAll position digits }

theorem read_digits (opened position : Nat) (done : BraceText) {digits : Text}
    (all : ∀ c ∈ digits, c.isDigit = true) (tail : Text) :
    read opened position done (digits ++ tail) =
      read opened (position + digits.byteLength) (done.pushAll position digits) tail := by
  induction digits generalizing position done with
  | nil =>
    simp [pushAll, Numeral.pushAll]
  | cons c rest ih =>
    have digit := all c (List.mem_cons_self ..)
    have brace : c ≠ '\x7d' := by rintro rfl; exact absurd digit (by decide)
    rw [List.cons_append, read, if_neg brace, if_neg (by simp [not_isBlank_of_isDigit digit]), if_pos digit,
      ih _ _ (fun c member => all c (List.mem_cons_of_mem _ member)), Text.byteLength_cons, Nat.add_assoc]
    congr 1
    unfold pushAll push
    cases done.comma <;> rfl

end BraceText

namespace Repetition

theorem isDigit_digits (bound : UInt64) : ∀ c ∈ digits bound, c.isDigit = true :=
  fun _ member => Nat.isDigit_of_mem_toDigits (by decide) (by decide) member

/-- The shortest spelling of bounds states these bounds. -/
theorem ofQuantifier_source (repetition : Repetition) (position : Nat) :
    ofQuantifier repetition.source position = .ok (some repetition) := by
  obtain ⟨least, greatest⟩ := repetition
  cases greatest with
  | unbounded =>
    simp only [source]
    split_ifs with zero one
    · rw [zero]; rfl
    · rw [one]; rfl
    · change (BraceText.read _ _ _ _).bind BraceText.bounds = _
      rw [BraceText.read_digits _ _ _ (isDigit_digits least)]
      change BraceText.bounds ⟨Numeral.empty.pushAll _ _, true, .empty⟩ = _
      unfold BraceText.bounds
      rw [Numeral.bound_pushAll_digits]
      rfl
  | atMost greatest =>
    simp only [source]
    split_ifs with same
    · subst same
      change (BraceText.read _ _ _ _).bind BraceText.bounds = _
      rw [BraceText.read_digits _ _ _ (isDigit_digits least)]
      change BraceText.bounds ⟨Numeral.empty.pushAll _ _, false, .empty⟩ = _
      unfold BraceText.bounds
      rw [Numeral.bound_pushAll_digits]
      rfl
    · change (BraceText.read _ _ _ _).bind BraceText.bounds = _
      rw [BraceText.read_digits _ _ _ (isDigit_digits least)]
      change (BraceText.read _ _ ⟨Numeral.empty.pushAll _ _, true, .empty⟩ _).bind BraceText.bounds = _
      rw [BraceText.read_digits _ _ _ (isDigit_digits greatest)]
      change BraceText.bounds ⟨Numeral.empty.pushAll _ _, true, Numeral.empty.pushAll _ _⟩ = _
      unfold BraceText.bounds
      rw [Numeral.bound_pushAll_digits, Numeral.bound_pushAll_digits]
      rfl

/-- A quantifier is a star, a plus sign, or text in braces that holds no closing brace. -/
theorem source_cases (repetition : Repetition) :
    repetition.source = ['*'] ∨ repetition.source = ['+'] ∨
      ∃ inner, '\x7d' ∉ inner ∧ repetition.source = '\x7b' :: (inner ++ ['\x7d']) := by
  have absent (bound : UInt64) : '\x7d' ∉ digits bound :=
    fun member => absurd (isDigit_digits bound _ member) (by decide)
  obtain ⟨least, greatest⟩ := repetition
  cases greatest with
  | unbounded =>
    simp only [source]
    split_ifs
    · exact .inl rfl
    · exact .inr (.inl rfl)
    · exact .inr (.inr ⟨digits least ++ [','], by simp [absent], by simp⟩)
  | atMost greatest =>
    simp only [source]
    split_ifs
    · exact .inr (.inr ⟨digits greatest, absent greatest, rfl⟩)
    · exact .inr (.inr ⟨digits least ++ ',' :: digits greatest, by simp [absent], by simp⟩)

/-- Directly after a closing parenthesis the spelling of bounds is one token. -/
theorem scan_source (repetition : Repetition) (rest : Text) :
    scan true (repetition.source ++ rest) = (.quantifier repetition.source, rest) := by
  rcases repetition.source_cases with star | plus | ⟨inner, absent, braces⟩
  · rw [star]; rfl
  · rw [plus]; rfl
  · have whole : repetition.source ++ rest = '\x7b' :: (inner ++ '\x7d' :: rest) := by simp [braces]
    have dropped : Text.dropThrough '\x7d' (repetition.source ++ rest) = rest := by
      rw [whole]
      exact Text.dropThrough_append ('\x7b' :: inner) (by simp [absent]) rest
    have token := Text.before_append_self repetition.source rest
    rw [whole] at dropped token ⊢
    simp only [scan, dropped, token]
    rfl

/-- A quantifier that states what it states is one token before every rest. -/
theorem scan_append_of_ofQuantifier {raw next : Text} {position : Nat} {bounds : Option Repetition}
    (quantifier : scan true (raw ++ next) = (.quantifier raw, next))
    (stated : ofQuantifier raw position = .ok bounds) (other : Text) :
    scan true (raw ++ other) = (.quantifier raw, other) := by
  have starts := (startsQuantifier_of_scan quantifier).2
  rcases raw with _ | ⟨c, inner⟩
  · rcases next with _ | ⟨c, rest⟩
    · exact absurd starts (by decide)
    · have nonempty := scan_source_ne_nil true c rest
      rw [← List.nil_append (c :: rest), quantifier] at nonempty
      exact absurd rfl nonempty
  obtain rfl | rfl | rfl := startsQuantifier_cons.mp starts
  · have raw := congrArg Prod.fst quantifier
    obtain rfl : inner = [] := by simpa [scan] using raw
    rfl
  · have raw := congrArg Prod.fst quantifier
    obtain rfl : inner = [] := by simpa [scan] using raw
    rfl
  · have closes : '\x7d' ∈ inner := by
      cases closed : BraceText.read position (position + 1) .empty inner with
      | error refusal =>
        change (BraceText.read position (position + 1) .empty inner).bind BraceText.bounds = _ at stated
        rw [closed] at stated
        exact absurd stated (by simp [Except.bind])
      | ok done => exact BraceText.mem_of_read closed
    have dropped : Text.dropThrough '\x7d' (('\x7b' :: inner) ++ next) = next :=
      congrArg Prod.snd quantifier
    have dropped' := Text.dropThrough_append_of_mem dropped (List.mem_cons_of_mem _ closes) other
    rw [List.cons_append] at dropped' ⊢
    simp only [scan, dropped']
    rw [← List.cons_append, Text.before_append_self]
    rfl

end Repetition

end GroupUnroll
