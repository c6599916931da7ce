import GroupUnroll.Tree.Reader
import GroupUnroll.Tree.Shown
import GroupUnroll.Unrolling.Unroller

/-! # Unrolling a pattern

The pattern is read into a tree with a table of aliases, and the tree is written out with every
group unrolled. A report keeps what happened in between.
-/

namespace GroupUnroll

/-- The unrolled text of a pattern. -/
def unrollPattern (table : AliasTable) (ceiling : UInt64) (pattern : Text) :
    Except Refusal Text := do
  let tree ← Tree.ofPattern table pattern
  (Unroller.ofTable table ceiling).unroll tree

/-- A pattern, its tree as reports show it, the spelling of the tree and the unrolled text. -/
structure Report where
  pattern : Text
  tree : Text
  spelling : Text
  unrolled : Text

namespace Report

/-- The report on unrolling a pattern. -/
def ofPattern (table : AliasTable) (ceiling : UInt64) (pattern : Text) : Except Refusal Report := do
  let tree ← Tree.ofPattern table pattern
  let unrolled ← (Unroller.ofTable table ceiling).unroll tree
  return ⟨pattern, tree.shown, Tree.source tree, unrolled⟩

/-- The lines of the report. -/
def lines (report : Report) : List String :=
  ["Transformation Report",
    "=====================",
    "Input:  " ++ String.ofList report.pattern,
    "Tree:   " ++ String.ofList report.tree,
    "Source: " ++ String.ofList report.spelling,
    "Output: " ++ String.ofList report.unrolled]

end Report

end GroupUnroll
