import GroupUnroll.Matching.Escape

/-! # Classes in brackets

A class is read twice. The first time counts brackets to find where the class ends and spells its
escapes anew. The second time reads members, ranges, nested classes and operators on sets. The two
may differ on where the class ends, because a bracket can also be the end of a range; what the
second reading leaves of the class is then part of the text after it.
-/

namespace GroupUnroll.Matching

/-- The characters at the head of a class that do not count as brackets, last one first, and the text
after them. -/
def takeClassHead : Text → Text × Text
  | '^' :: ']' :: rest => ([']', '^'], rest)
  | '^' :: rest => (['^'], rest)
  | ']' :: rest => ([']'], rest)
  | rest => ([], rest)

/-- The text of a class through its closing bracket, and the text after it. `depth` counts the
brackets opened inside, and `read` is what has been read, last character first. -/
def takeClass (depth : Nat) (read : Text) : Text → Except Fault (Text × Text)
  | [] => .error .unclosedClass
  | '\\' :: rest =>
    match rest with
    | [] => .error .trailingBackslash
    | c :: rest =>
      match spellInClass c with
      | .error fault => .error fault
      | .ok spelled => takeClass depth (spelled.reverse ++ read) rest
  | '[' :: rest => takeClass (depth + 1) ('[' :: read) rest
  | ']' :: rest =>
    match depth with
    | 0 => .ok ((']' :: read).reverse, rest)
    | depth + 1 => takeClass depth (']' :: read) rest
  | c :: rest => takeClass depth (c :: read) rest

/-- A member of a class: a single character or a set with a name. -/
inductive Member
  | single (c : Char)
  | named (set : CharSet)

namespace Member

/-- The characters that the member stands for. -/
def toSet : Member → CharSet
  | .single c => .single c
  | .named set => set

/-- The member that starts the text of a class, and the text after it. -/
def read : Text → Except Fault (Member × Text)
  | [] => .error .unclosedClass
  | '\\' :: c :: rest => .ok (((CharSet.ofLetter? c).map Member.named).getD (.single c), rest)
  | c :: rest => .ok (.single c, rest)

/-- The range or single member that starts the text of a class. A hyphen before another hyphen or the
closing bracket does not make a range. -/
def readRange (text : Text) : Except Fault (CharSet × Text) := do
  let (member, rest) ← read text
  match rest with
  | '-' :: after =>
    if after.head?.any (· ∈ ['-', ']']) then return (member.toSet, rest)
    match member, ← read after with
    | .single first, (.single last, rest) =>
      if first ≤ last then return (.interval first last, rest) else throw .reversedRange
    | _, _ => throw .rangeOfClass
  | rest => return (member.toSet, rest)

end Member

/-- The class `[:name:]` whose opening bracket stands before the text, and the text after it. -/
def readNamedClass? (ignoreCase : Bool) (text : Text) : Option (CharSet × Text) := do
  let ':' :: text := text | none
  let (negated, text) := match text with
    | '^' :: text => (true, text)
    | text => (false, text)
  let set ← CharSet.named? (String.ofList (text.takeWhile Char.isAlpha))
  let ':' :: ']' :: rest := text.dropWhile Char.isAlpha | none
  let set := if ignoreCase then set.ignoringCase else set
  return (if negated then set.complement else set, rest)

/-- An operator between two parts of a class. -/
inductive SetOperator
  | intersection
  | difference
  | symmetricDifference

/-- The operator applied to two sets. -/
def SetOperator.apply : SetOperator → CharSet → CharSet → CharSet
  | .intersection => CharSet.intersection
  | .difference => CharSet.difference
  | .symmetricDifference => CharSet.symmetricDifference

/-- The operator that starts the text of a class, and the text after it. -/
def SetOperator.read? : Text → Option (SetOperator × Text)
  | '&' :: '&' :: rest => some (.intersection, rest)
  | '-' :: '-' :: rest => some (.difference, rest)
  | '~' :: '~' :: rest => some (.symmetricDifference, rest)
  | _ => none

/-- A part of a class that has been read, and how deep classes and operators are nested in it. -/
structure ClassPart where
  set : CharSet
  depth : Nat

/-- A class that is being read: what stands before the last operator, and the members since then,
with their number and how deep they are nested. -/
structure OpenClass where
  negated : Bool
  left : Option (ClassPart × SetOperator)
  members : List CodeRange
  count : Nat
  depth : Nat

namespace OpenClass

/-- The class whose opening bracket stands before the text, and the text after its head. Hyphens
there stand for themselves, and so does a closing bracket without hyphens before it. -/
def start (text : Text) : OpenClass × Text :=
  let (negated, text) := match text with
    | '^' :: rest => (true, rest)
    | rest => (false, rest)
  match text.takeWhile (· = '-'), text.dropWhile (· = '-') with
  | [], ']' :: rest => (⟨negated, none, (CharSet.single ']').ranges, 1, 0⟩, rest)
  | [], rest => (⟨negated, none, [], 0, 0⟩, rest)
  | hyphens, rest => (⟨negated, none, (CharSet.single '-').ranges, hyphens.length, 0⟩, rest)

/-- The class with another member. -/
def add (opened : OpenClass) (part : ClassPart) : OpenClass :=
  { opened with
    members := part.set.ranges ++ opened.members
    count := opened.count + 1
    depth := opened.depth.max part.depth }

/-- All that has been read of the class; operators apply from left to right. -/
def operand (ignoreCase : Bool) (opened : OpenClass) : ClassPart :=
  let close (set : CharSet) : CharSet := if ignoreCase then set.ignoringCase else set
  let right := CharSet.ofRanges opened.members
  let depth := if opened.count ≤ 1 then opened.depth else opened.depth + 1
  match opened.left with
  | none => ⟨right, depth⟩
  | some (left, operator) =>
    ⟨operator.apply (close left.set) (close right), left.depth.max depth + 1⟩

/-- The class after an operator. -/
def operate (ignoreCase : Bool) (opened : OpenClass) (operator : SetOperator) : OpenClass :=
  ⟨opened.negated, some (opened.operand ignoreCase, operator), [], 0, 0⟩

/-- The class read to its end. -/
def close (ignoreCase : Bool) (opened : OpenClass) : ClassPart :=
  let ⟨members, depth⟩ := opened.operand ignoreCase
  let members := if ignoreCase then members.ignoringCase else members
  ⟨if opened.negated then members.complement else members, depth + 1⟩

/-- Read a class to its end in at most `steps` steps; `outer` are the classes around it. -/
def read (ignoreCase : Bool) :
    (steps : Nat) → (outer : List OpenClass) → OpenClass → Text → Except Fault (ClassPart × Text)
  | 0, _, _, _ => .error .unclosedClass
  | _, _, _, [] => .error .unclosedClass
  | steps + 1, outer, opened, ']' :: rest =>
    match outer with
    | [] => .ok (opened.close ignoreCase, rest)
    | enclosing :: outer =>
      read ignoreCase steps outer (enclosing.add (opened.close ignoreCase)) rest
  | steps + 1, outer, opened, '[' :: rest =>
    match readNamedClass? ignoreCase rest with
    | some (set, rest) => read ignoreCase steps outer (opened.add ⟨set, 0⟩) rest
    | none =>
      let (inner, rest) := start rest
      read ignoreCase steps (opened :: outer) inner rest
  | steps + 1, outer, opened, text =>
    match SetOperator.read? text with
    | some (operator, rest) => read ignoreCase steps outer (opened.operate ignoreCase operator) rest
    | none =>
      match Member.readRange text with
      | .error fault => .error fault
      | .ok (set, rest) => read ignoreCase steps outer (opened.add ⟨set, 0⟩) rest

end OpenClass

/-- How deep classes and operators may be nested in a class. -/
def classDepthLimit : Nat := 250

/-- The set of the class whose opening bracket stands before the text, and the text after it. -/
def readBracketed (ignoreCase : Bool) (text : Text) : Except Fault (CharSet × Text) := do
  let (head, rest) := takeClassHead text
  let (spelled, rest) ← takeClass 0 head rest
  let (opened, members) := OpenClass.start spelled
  let (whole, extra) ← OpenClass.read ignoreCase (spelled.length + 1) [] opened members
  if classDepthLimit < whole.depth then throw .nestedTooDeep
  return (whole.set, extra ++ rest)

end GroupUnroll.Matching
