import GroupUnroll.Alias.Table
import GroupUnroll.Tree.Basic

/-! # Unrolling a tree

A group with bounds is written out as its mandatory copies, followed by the optional ones, each of
which carries a question mark. A matching engine keeps only the last capture of a group, so every
repetition gets a slot by having a copy of its own. Mandatory copies never become optional, and
an upper bound below the lower one adds no copies.

Bounds are taken as written, so before any copy is made the size it leads to is computed in
64-bit words and compared with a limit. Text that is not repeated is not checked.
-/

namespace GroupUnroll

/-- A size, if it fits a 64-bit word. -/
def checkedSize? (size : Nat) : Option Nat := if size < UInt64.size then some size else none

/-- The size of `used` bytes followed by the mandatory and optional copies of a group of
`copySize` bytes, if no intermediate size leaves the 64-bit word. -/
def unrolledSize? (used copySize mandatory optional : Nat) : Option Nat := do
  let required ← checkedSize? (copySize * mandatory)
  let extra ← checkedSize? ((copySize + 1) * optional)
  let added ← checkedSize? (required + extra)
  checkedSize? (added + used)

/-- The text of a group repeated: the mandatory copies, then the optional ones. -/
def copies (copy : Text) (mandatory optional : Nat) : Text :=
  (List.replicate mandatory copy).flatten ++ (List.replicate optional (copy ++ ['?'])).flatten

/-- How trees are unrolled. -/
structure Unroller where
  /-- Stands in for a missing upper bound. -/
  ceiling : UInt64
  /-- Write what replaces a reference as a group named after the alias. -/
  naming : Bool
  /-- The greatest size that copies may lead to, in bytes. -/
  sizeLimit : UInt64
deriving DecidableEq

namespace Unroller

/-- The ceiling unless another is given. -/
def defaultCeiling : UInt64 := 12

/-- The size limit unless another is given: ten mebibytes. -/
def defaultSizeLimit : UInt64 := 10485760

/-- The unroller that follows the switches of a table of aliases. -/
def ofTable (table : AliasTable) (ceiling : UInt64) : Unroller :=
  ⟨ceiling, table.naming, defaultSizeLimit⟩

/-- The opener of the group that is named after an alias; a name that starts with a digit cannot
name a group. -/
def namedOpening? (name : Text) : Option Text :=
  if name.head?.any Char.isDigit then none else some ('(' :: '?' :: '<' :: (name ++ ['>']))

/-- Write the copies of a group after `used` bytes. -/
def emitCopies (unroller : Unroller) (used : Nat) (copy : Text) (repetition : Repetition) :
    Except Refusal Text :=
  let mandatory := repetition.min.toNat
  let optional := repetition.optionalCopies unroller.ceiling
  match unrolledSize? used (Text.byteLength copy) mandatory optional with
  | none => .error (.tooLarge unroller.sizeLimit)
  | some size =>
    if size ≤ unroller.sizeLimit.toNat then .ok (copies copy mandatory optional)
    else .error (.tooLarge unroller.sizeLimit)

mutual

/-- The text written for one part after `used` bytes. -/
def emitPart (unroller : Unroller) (used : Nat) : Part → Except Refusal Text
  | .plain text => .ok text
  | .group _ opening body repetition => do
    let inner ← emit unroller (Text.byteLength opening) body
    let copy := opening ++ (inner ++ [')'])
    match repetition with
    | none => return copy
    | some repetition => unroller.emitCopies used copy repetition
  | .reference name body =>
    if unroller.naming then
      match namedOpening? name with
      | none => .error (.badAliasName name)
      | some opening => do
        let inner ← emit unroller (used + Text.byteLength opening) body
        return opening ++ (inner ++ [')'])
    else emit unroller used body

/-- The text written for a tree after `used` bytes; a group starts counting anew. -/
def emit (unroller : Unroller) (used : Nat) : Tree → Except Refusal Text
  | [] => .ok []
  | part :: rest => do
    let text ← emitPart unroller used part
    let more ← emit unroller (used + Text.byteLength text) rest
    return text ++ more

end

/-- The unrolled text of a tree. -/
def unroll (unroller : Unroller) (tree : Tree) : Except Refusal Text := unroller.emit 0 tree

end Unroller

end GroupUnroll
