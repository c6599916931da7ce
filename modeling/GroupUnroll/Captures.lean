import GroupUnroll.Text.Basic

/-! # Captures of one match

Slot zero is the whole match and the other slots are the groups in the order of their openers. A
slot is absent if its group took no part in the match. The selections drop slot zero and answer
what unrolled patterns are for: one entry per repetition.
-/

namespace GroupUnroll

/-- The slots of a match, or nothing if there was no match. -/
structure Captures where
  slots : Option (List (Option Text))
deriving DecidableEq

namespace Captures

/-- The captures of a match. -/
def ofSlots (slots : List (Option Text)) : Captures := ⟨some slots⟩

/-- The result of a search that found nothing. -/
def noMatch : Captures := ⟨none⟩

/-- Whether there was a match. -/
def isMatch (captures : Captures) : Bool := captures.slots.isSome

/-- All slots in order; none without a match. -/
def toList (captures : Captures) : List (Option Text) := captures.slots.getD []

/-- The number of slots. -/
def length (captures : Captures) : Nat := captures.toList.length

/-- Whether there are no slots. -/
def isEmpty (captures : Captures) : Bool := captures.toList.isEmpty

/-- The text in a slot. -/
def get? (captures : Captures) (index : Nat) : Option Text := (captures.toList[index]?).join

/-- The whole match. -/
def whole? (captures : Captures) : Option Text := captures.get? 0

/-- The slots that `compact` leaves: all, or only the present ones. -/
def kept (compact : Bool) (slots : List (Option Text)) : List (Option Text) :=
  slots.filter fun slot => !compact || slot.isSome

/-- The groups, without the absent ones if `compact`. -/
def groups? (captures : Captures) (compact : Bool) : Option (List (Option Text)) :=
  captures.slots.map fun slots => kept compact slots.tail

/-- The groups that are kept and not rejected; the test sees the kept groups in order. -/
def groupsWithout? {m : Type → Type} [Monad m] (captures : Captures) (compact : Bool)
    (reject : Option Text → m Bool) : m (Option (List (Option Text))) :=
  match captures.groups? compact with
  | none => return none
  | some groups => return some (← groups.filterM fun slot => return !(← reject slot))

/-- Cut a list into runs of `size + 1`, the last of which may be shorter. -/
def runs {α : Type} (size : Nat) (entries : List α) : List (List α) :=
  match entries with
  | [] => []
  | entry :: rest => (entry :: rest.take size) :: runs size (rest.drop size)
termination_by entries.length
decreasing_by
  rw [List.length_drop]
  exact Nat.lt_succ_of_le (Nat.sub_le ..)

/-- One group out of every run of `before + 1 + after`, dropping absent ones. -/
def pick (captures : Captures) (before after : Nat) : List Text :=
  (runs (before + after) ((captures.groups? false).getD [])).filterMap fun run =>
    (run[before]?).join

end Captures

end GroupUnroll
