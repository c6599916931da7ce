import GroupUnroll.Pattern.Token
import GroupUnroll.Refusal

/-! # Tables of aliases

An alias is a named piece of a pattern. Bodies are kept as text and read at every reference. A table
lists its aliases by increasing name and carries two switches: whether references are replaced
at all, and whether what replaces a reference becomes a group named after the alias.
-/

namespace GroupUnroll

/-- Aliases by increasing name, and the switches. -/
structure AliasTable where
  entries : List (Text × Text)
  replacing : Bool
  naming : Bool
deriving DecidableEq

namespace AliasTable

/-- No aliases, both switches off. -/
def empty : AliasTable := ⟨[], false, false⟩

/-- Set the body of a name in a list ordered by name. -/
def insertEntry (name body : Text) : List (Text × Text) → List (Text × Text)
  | [] => [(name, body)]
  | (other, text) :: rest =>
    if name < other then (name, body) :: (other, text) :: rest
    else if name = other then (name, body) :: rest
    else (other, text) :: insertEntry name body rest

/-- Whether a name can follow the at sign of a reference. -/
def isReferable (name : Text) : Bool := !name.isEmpty && name.all isAliasChar

/-- Add an alias, or replace the body of one. -/
def insert (table : AliasTable) (name body : Text) : Except Refusal AliasTable :=
  if isReferable name then .ok { table with entries := insertEntry name body table.entries }
  else .error (.badAliasName name)

/-- Remove an alias. -/
def erase (table : AliasTable) (name : Text) : AliasTable :=
  { table with entries := table.entries.filter fun entry => entry.1 ≠ name }

/-- Remove every alias and leave the switches as they are. -/
def clear (table : AliasTable) : AliasTable := { table with entries := [] }

/-- Turn the replacement of references on or off. -/
def setReplacing (table : AliasTable) (enabled : Bool) : AliasTable :=
  { table with replacing := enabled }

/-- Turn the naming of replaced references on or off. -/
def setNaming (table : AliasTable) (enabled : Bool) : AliasTable :=
  { table with naming := enabled }

/-- The number of aliases. -/
def size (table : AliasTable) : Nat := table.entries.length

/-- The body of an alias. -/
def get? (table : AliasTable) (name : Text) : Option Text := table.entries.lookup name

/-- Remove an alias and hand over its body. -/
def take (table : AliasTable) (name : Text) : Option Text × AliasTable :=
  (table.get? name, table.erase name)

/-- What a reference stands for, if references are replaced. -/
def replacement? (table : AliasTable) (name : Text) : Option Text :=
  if table.replacing then table.get? name else none

end AliasTable

end GroupUnroll
