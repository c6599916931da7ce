import GroupUnroll.Text.Basic

/-! # Option flags of a pattern

Flags given beside a pattern are written in front of it as an inline setting.
-/

namespace GroupUnroll

/-- The options a pattern is compiled with. -/
structure FlagSet where
  ignoreCase : Bool
  multiLine : Bool
  dotAll : Bool
  extended : Bool
deriving DecidableEq

namespace FlagSet

/-- No option set. -/
def empty : FlagSet := ⟨false, false, false, false⟩

/-- The flags with the option of a letter set or reset, if the letter names one. -/
def set? (flags : FlagSet) (letter : Char) (value : Bool) : Option FlagSet :=
  match letter with
  | 'i' => some { flags with ignoreCase := value }
  | 'm' => some { flags with multiLine := value }
  | 's' => some { flags with dotAll := value }
  | 'x' => some { flags with extended := value }
  | _ => none

/-- The letters of the options that are set, in a fixed order. -/
def letters (flags : FlagSet) : Text :=
  [(flags.ignoreCase, 'i'), (flags.multiLine, 'm'), (flags.dotAll, 's'),
    (flags.extended, 'x')].filterMap fun (set, letter) => if set then some letter else none

/-- The setting written in front of a pattern, empty if no option is set. -/
def inlineSetting (flags : FlagSet) : Text :=
  match flags.letters with
  | [] => []
  | letters => '(' :: '?' :: (letters ++ [')'])

end FlagSet

end GroupUnroll
