import GroupUnroll.Matcher

/-! # The command line

Two commands: `expand` prints an unrolled pattern, `captures` matches one against a text. Running a
command is a function from its arguments to what is printed and the exit code. Arguments
that make no command end with code two before anything is done, refusals with code one.
-/

namespace GroupUnroll

namespace CommandLine

/-- What both commands can be told. -/
structure Options where
  ceiling : UInt64
  aliases : List (Text × Text)
  naming : Bool

/-- A command. -/
inductive Command
  | expand (pattern : Text) (options : Options) (debug : Bool)
  | captures (pattern input : Text) (options : Options) (keepEmpty : Bool)
      (skip : Option (Nat × Nat))

/-- An option of either command. -/
inductive Key
  | ceiling
  | alias
  | naming
  | debug
  | keepEmpty
  | skip
deriving DecidableEq

/-- The option with the given spelling. -/
def Key.ofArgument? : String → Option Key
  | "-c" | "--ceiling" => some .ceiling
  | "-a" | "--alias" => some .alias
  | "-n" | "--named-groups" => some .naming
  | "-d" | "--debug" => some .debug
  | "-k" | "--keep-empty" => some .keepEmpty
  | "-s" | "--skip" => some .skip
  | _ => none

/-- Whether the option is followed by a value. -/
def Key.takesValue : Key → Bool
  | .ceiling | .alias | .skip => true
  | .naming | .debug | .keepEmpty => false

/-- The arguments of a command: those that are not options, and the options with their values. -/
structure Arguments where
  positionals : List Text
  options : List (Key × Text)

/-- Whether an argument is spelled as an option. -/
def isOption (argument : String) : Bool := argument.startsWith "-" && argument != "-"

/-- Tell options and their values from the other arguments; only `allowed` options may occur. -/
def Arguments.read? (allowed : List Key) : List String → Option Arguments
  | [] => some ⟨[], []⟩
  | argument :: rest =>
    if isOption argument then
      match Key.ofArgument? argument with
      | none => none
      | some key =>
        if key ∉ allowed then none
        else if key.takesValue then
          match rest with
          | [] => none
          | value :: rest =>
            if isOption value then none
            else (read? allowed rest).map fun arguments =>
              { arguments with options := (key, value.toList) :: arguments.options }
        else (read? allowed rest).map fun arguments =>
          { arguments with options := (key, []) :: arguments.options }
    else (read? allowed rest).map fun arguments =>
      { arguments with positionals := argument.toList :: arguments.positionals }

namespace Arguments

/-- The values of an option in order. -/
def values (arguments : Arguments) (key : Key) : List Text :=
  arguments.options.filterMap fun (other, value) => if other = key then some value else none

/-- The value of an option that may occur once. -/
def value? (arguments : Arguments) (key : Key) : Option (Option Text) :=
  match arguments.values key with
  | [] => some none
  | [value] => some (some value)
  | _ => none

/-- Whether a switch that may occur once is given. -/
def switch? (arguments : Arguments) (key : Key) : Option Bool :=
  (arguments.value? key).map Option.isSome

end Arguments

/-- A decimal number that fits a machine word, with or without a plus sign. -/
def readCount? (text : Text) : Option Nat :=
  match (if text.head? = some '+' then text.tail else text) with
  | [] => none
  | digits =>
    if digits.all Char.isDigit ∧ Nat.ofDigitChars 10 digits 0 < UInt64.size then
      some (Nat.ofDigitChars 10 digits 0)
    else none

/-- The texts before and after the first occurrence of a character. -/
def splitAt? (mark : Char) (text : Text) : Option (Text × Text) :=
  match text.dropWhile (· != mark) with
  | [] => none
  | _ :: rest => some (text.takeWhile (· != mark), rest)

/-- The two counts of a selection. -/
def readSkip? (text : Text) : Option (Nat × Nat) := do
  let (before, after) ← splitAt? ',' text
  return (← readCount? before.trim, ← readCount? after.trim)

/-- The options that both commands share. -/
def Options.read? (arguments : Arguments) : Option Options := do
  let ceiling ← match ← arguments.value? .ceiling with
    | none => some Unroller.defaultCeiling
    | some text => (readCount? text).map UInt64.ofNat
  let aliases ← (arguments.values .alias).mapM (splitAt? '=')
  return ⟨ceiling, aliases, ← arguments.switch? .naming⟩

/-- The command that the arguments spell. -/
def Command.read? : List String → Option Command
  | "expand" :: rest => do
    let arguments ← Arguments.read? [.ceiling, .alias, .naming, .debug] rest
    match arguments.positionals with
    | [pattern] =>
      return .expand pattern (← Options.read? arguments) (← arguments.switch? .debug)
    | _ => none
  | "captures" :: rest => do
    let arguments ← Arguments.read? [.ceiling, .alias, .naming, .keepEmpty, .skip] rest
    match arguments.positionals with
    | [pattern, input] =>
      let skip ← match ← arguments.value? .skip with
        | none => some none
        | some text => (readSkip? text).map some
      return .captures pattern input (← Options.read? arguments) (← arguments.switch? .keepEmpty) skip
    | _ => none
  | _ => none

/-- What a run prints and the code it ends with. -/
structure Outcome where
  code : UInt32
  stdout : String
  stderr : String

namespace Outcome

/-- Text made of lines. -/
def ofLines (lines : List String) : String := String.join (lines.map (· ++ "\n"))

/-- A run that prints lines and succeeds. -/
def success (lines : List String) : Outcome := ⟨0, ofLines lines, ""⟩

/-- A run that prints lines and then fails. -/
def failure (lines : List String) (refusal : Refusal) : Outcome :=
  ⟨1, ofLines lines, ofLines ["Error: " ++ refusal.message]⟩

/-- A run without a command. -/
def usage : Outcome :=
  ⟨2, "", ofLines
    ["usage: expand PATTERN [-c CEILING] [-a NAME=BODY]... [-n] [-d]",
      "       captures PATTERN INPUT [-c CEILING] [-a NAME=BODY]... [-n] [-k] [-s BEFORE,AFTER]"]⟩

end Outcome

/-- The table of aliases that the options describe; giving an alias turns references on. -/
def Options.table (options : Options) : Except Refusal AliasTable :=
  options.aliases.foldlM (fun table (name, body) => table.insert name body)
    ((AliasTable.empty.setReplacing !options.aliases.isEmpty).setNaming options.naming)

/-- The lines that answer `expand`. -/
def expandLines (pattern : Text) (options : Options) (debug : Bool) :
    Except Refusal (List String) := do
  let table ← options.table
  if debug then
    return (← Report.ofPattern table options.ceiling pattern).lines
  else
    return ["Output:", "  " ++ String.ofList (← unrollPattern table options.ceiling pattern)]

/-- One numbered line for each entry. -/
def numbered (entries : List String) : List String :=
  entries.mapIdx fun index entry => "  [" ++ toString (index + 1) ++ "] " ++ entry

/-- The lines that list the captures of a match. -/
def captureLines (captures : Captures) (keepEmpty : Bool) : Option (Nat × Nat) → List String
  | some (before, after) =>
    "Selected captures:" :: numbered ((captures.pick before after).map String.ofList)
  | none =>
    "Captures:" :: numbered (((captures.groups? !keepEmpty).getD []).map fun slot =>
      (slot.map String.ofList).getD "(none)")

/-- Match a matcher against the input, after printing what is matched. -/
def runCaptures (matcher : Matcher) (input : Text) (keepEmpty : Bool) (skip : Option (Nat × Nat)) :
    Outcome :=
  let heading :=
    ["  Pattern:  " ++ String.ofList matcher.source,
      "  Expanded: " ++ String.ofList matcher.unrolled,
      "  Input:    " ++ String.ofList input,
      ""]
  match matcher.captures input with
  | .error refusal => .failure heading refusal
  | .ok captures =>
    match captures.whole? with
    | none => ⟨1, Outcome.ofLines (heading ++ ["✗ No match"]), ""⟩
    | some found =>
      .success (heading ++ ["✓ Match found!", "  Match:    " ++ String.ofList found, ""] ++
        captureLines captures keepEmpty skip)

/-- Run a command. -/
def Command.run : Command → Outcome
  | .expand pattern options debug =>
    let heading := ["Expanding pattern...", "  Input:  " ++ String.ofList pattern, ""]
    match expandLines pattern options debug with
    | .ok lines => .success (heading ++ lines)
    | .error refusal => .failure heading refusal
  | .captures pattern input options keepEmpty skip =>
    match options.table.bind fun table => Matcher.ofPattern table options.ceiling pattern with
    | .ok matcher => runCaptures matcher input keepEmpty skip
    | .error refusal => .failure [] refusal

/-- Run the program with its arguments. -/
def run (arguments : List String) : Outcome :=
  match Command.read? arguments with
  | none => .usage
  | some command => command.run

end CommandLine

end GroupUnroll
