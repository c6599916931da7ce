import GroupUnroll.Text.Quoted
import GroupUnroll.Tree.Basic

/-! # Trees in reports

Reports show a tree on one line, every part by what it is and with its fields by name.
-/

namespace GroupUnroll

/-- A label applied to quoted text. -/
def shownText (label : String) (text : Text) : Text := label.toList ++ '(' :: (text.quoted ++ [')'])

/-- The kind of a group. -/
def GroupKind.shown : GroupKind → Text
  | .capturing => "Capturing".toList
  | .nonCapturing => "NonCapturing".toList
  | .named name => shownText "Named" name
  | .lookahead => "Lookahead".toList
  | .negativeLookahead => "NegativeLookahead".toList
  | .lookbehind => "Lookbehind".toList
  | .negativeLookbehind => "NegativeLookbehind".toList
  | .atomic => "Atomic".toList
  | .flags letters => shownText "Flags" letters
  | .other => "Other".toList

/-- The greatest number of copies. -/
def UpperBound.shown : UpperBound → Text
  | .atMost count => "Exact(".toList ++ Repetition.digits count ++ [')']
  | .unbounded => "Unbounded".toList

/-- The bounds of a group. -/
def Repetition.shown : Option Repetition → Text
  | none => "None".toList
  | some repetition =>
    "Some(Repeat \x7b min: ".toList ++ digits repetition.min ++ ", max: ".toList ++
      repetition.max.shown ++ " \x7d)".toList

mutual

/-- One part. -/
def Part.shown : Part → Text
  | .plain text => shownText "Literal" text
  | .group kind opening body repetition =>
    "Group(Group \x7b kind: ".toList ++ kind.shown ++ ", opening: ".toList ++ opening.quoted ++
      ", body: [".toList ++ Tree.shownParts body ++ "], repeat: ".toList ++
      Repetition.shown repetition ++ " \x7d)".toList
  | .reference name body =>
    "AliasRef \x7b name: ".toList ++ name.quoted ++ ", resolved: [".toList ++
      Tree.shownParts body ++ "] \x7d".toList

/-- Parts between commas. -/
def Tree.shownParts : Tree → Text
  | [] => []
  | [part] => Part.shown part
  | part :: next :: rest => Part.shown part ++ ", ".toList ++ Tree.shownParts (next :: rest)

end

/-- A tree between brackets. -/
def Tree.shown (tree : Tree) : Text := '[' :: (Tree.shownParts tree ++ [']'])

end GroupUnroll
