import GroupUnroll.Matching.CharSet
import GroupUnroll.Matching.Condition

/-! # Expressions of the matching engine

The engine knows single characters, conditions on a position, captures, greedy and lazy iteration,
atomic groups, and looking ahead or behind.

An expression is regular if it has no atomic groups, looks or conditions on words. Regular
expressions are matched by trying every place of a program at every position at most once; all others
by backtracking, which hands over to the first method wherever it can.
-/

namespace GroupUnroll.Matching

/-- What a pattern matches. -/
inductive Expr
  | empty
  | chars (set : CharSet)
  | holds (condition : Condition)
  | sequence (parts : List Expr)
  | choice (branches : List Expr)
  | capture (slot : Nat) (body : Expr)
  | iterate (body : Expr) (min : Nat) (max : Option Nat) (greedy : Bool)
  | atomic (body : Expr)
  | look (behind negated : Bool) (body : Expr)

namespace Expr

/-- Whether a quantifier may follow. -/
def isRepeatable : Expr → Bool
  | .empty | .holds _ | .look .. => false
  | _ => true

/-- Whether this is the expression that matches only the empty text. -/
def isEmpty : Expr → Bool
  | .empty => true
  | _ => false

/-- The parts of a branch in order; empty parts are left out. -/
def ofParts (parts : List Expr) : Expr :=
  match parts.filter (!·.isEmpty) with
  | [] => .empty
  | [part] => part
  | parts => .sequence parts

/-- The branches of a group, tried in order. -/
def ofBranches : List Expr → Expr
  | [] => .empty
  | [branch] => branch
  | branches => .choice branches

mutual

/-- The expression and all expressions within it. -/
def subexprs : Expr → List Expr
  | .sequence parts => .sequence parts :: subexprsOfAll parts
  | .choice branches => .choice branches :: subexprsOfAll branches
  | .capture slot body => .capture slot body :: body.subexprs
  | .iterate body min max greedy => .iterate body min max greedy :: body.subexprs
  | .atomic body => .atomic body :: body.subexprs
  | .look behind negated body => .look behind negated body :: body.subexprs
  | expr => [expr]

/-- Some expressions and all expressions within them. -/
def subexprsOfAll : List Expr → List Expr
  | [] => []
  | expr :: rest => expr.subexprs ++ subexprsOfAll rest

end

/-- Whether the expression is regular. -/
def isRegular (expr : Expr) : Bool :=
  expr.subexprs.all fun
    | .holds condition => !condition.regardsWords
    | .atomic _ | .look .. => false
    | _ => true

/-- Whether no match takes a character. -/
def takesNothing (expr : Expr) : Bool :=
  expr.subexprs.all fun
    | .chars _ => false
    | _ => true

/-- The sets of the single characters in the expression. -/
def sets (expr : Expr) : List CharSet :=
  expr.subexprs.filterMap fun
    | .chars set => some set
    | _ => none

/-- The slots of the groups in the expression. -/
def slots (expr : Expr) : List Nat :=
  expr.subexprs.filterMap fun
    | .capture slot _ => some slot
    | _ => none

/-- The bounds of the iterations in the expression. -/
def bounds (expr : Expr) : List (Nat × Option Nat) :=
  expr.subexprs.filterMap fun
    | .iterate _ min max _ => some (min, max)
    | _ => none

mutual

/-- The least number of characters that a match takes. -/
def minWidth : Expr → Nat
  | .empty | .holds _ | .look .. => 0
  | .chars _ => 1
  | .sequence parts => (minWidths parts).sum
  | .choice branches => ((minWidths branches).min?).getD 0
  | .capture _ body | .atomic body => body.minWidth
  | .iterate body min _ _ => body.minWidth * min

/-- The least numbers of characters that matches take. -/
def minWidths : List Expr → List Nat
  | [] => []
  | expr :: rest => expr.minWidth :: minWidths rest

end

mutual

/-- Whether every match is seen to take the same number of characters. -/
def hasFixedWidth : Expr → Bool
  | .empty | .holds _ | .look .. | .chars _ => true
  | .sequence parts => haveFixedWidth parts
  | .choice branches =>
    haveFixedWidth branches && (minWidths branches).all (· = ((minWidths branches).head?).getD 0)
  | .capture _ body | .atomic body => body.hasFixedWidth
  | .iterate body min max _ => body.hasFixedWidth && max = some min

/-- Whether all expressions have a fixed width. -/
def haveFixedWidth : List Expr → Bool
  | [] => true
  | expr :: rest => expr.hasFixedWidth && haveFixedWidth rest

end

end Expr

end GroupUnroll.Matching
