import GroupUnroll.Refusal

/-! # Paths of aliases

While the body of an alias is read, references in it lead to further bodies. The path names the
aliases being read, outermost first. An alias that is already on it cannot be entered again.
-/

namespace GroupUnroll

/-- The aliases being read, outermost first. -/
structure AliasPath where
  names : List Text
deriving DecidableEq

namespace AliasPath

/-- No alias being read. -/
def empty : AliasPath := ⟨[]⟩

/-- Start reading an alias. -/
def enter (path : AliasPath) (name : Text) : Except Refusal AliasPath :=
  if name ∈ path.names then .error (.circularReference name path.names)
  else .ok ⟨path.names ++ [name]⟩

/-- Stop reading the innermost alias. -/
def leave (path : AliasPath) : AliasPath := ⟨path.names.dropLast⟩

/-- How many aliases are being read. -/
def length (path : AliasPath) : Nat := path.names.length

theorem leave_of_enter {path entered : AliasPath} {name : Text}
    (success : path.enter name = .ok entered) : entered.leave = path := by
  unfold enter at success
  split at success
  · exact absurd success (by simp)
  · obtain rfl := Except.ok.inj success
    simp [leave]

end AliasPath

end GroupUnroll
