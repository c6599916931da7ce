import GroupUnroll.Pattern.Token
import GroupUnroll.Repetition.Basic

/-! # Pattern trees

A tree tells apart only what unrolling needs: text that is copied through, groups with their
bounds, and references to aliases with the tree of the alias body. `Tree.source` spells a tree as a
pattern again, with quantifiers in their shortest form and references by name.
-/

namespace GroupUnroll

/-- A part of a pattern. -/
inductive Part
  | plain (text : Text)
  | group (kind : GroupKind) (opening : Text) (body : List Part) (repetition : Option Repetition)
  | reference (name : Text) (body : List Part)

/-- A pattern, as its parts in order. -/
abbrev Tree := List Part

/-- The quantifier of a group, which a group without bounds lacks. -/
def quantifierSource : Option Repetition → Text
  | none => []
  | some repetition => repetition.source

mutual

/-- The spelling of one part. -/
def Part.source : Part → Text
  | .plain text => text
  | .group _ opening body repetition =>
    opening ++ (Tree.source body ++ ')' :: quantifierSource repetition)
  | .reference name _ => '@' :: name

/-- The spelling of a pattern. -/
def Tree.source : Tree → Text
  | [] => []
  | part :: rest => Part.source part ++ Tree.source rest

end

namespace Tree

@[simp] theorem source_nil : Tree.source [] = [] := by simp [Tree.source]

@[simp] theorem source_cons (part : Part) (rest : Tree) :
    Tree.source (part :: rest) = part.source ++ Tree.source rest := by simp [Tree.source]

@[simp] theorem source_append (first second : Tree) :
    Tree.source (first ++ second) = Tree.source first ++ Tree.source second := by
  induction first with
  | nil => simp
  | cons part rest ih => simp [ih]

/-- Put a part before a tree; two runs of plain text that meet are joined. -/
def join : Part → Tree → Tree
  | .plain text, .plain more :: rest => .plain (text ++ more) :: rest
  | part, tree => part :: tree

/-- The tree with the given parts, of which the last is named first. -/
def ofReversed (parts : List Part) : Tree := parts.foldl (fun tree part => join part tree) []

theorem source_join (part : Part) (tree : Tree) :
    Tree.source (join part tree) = part.source ++ Tree.source tree := by
  unfold join
  split <;> simp [Part.source]

end Tree

end GroupUnroll
