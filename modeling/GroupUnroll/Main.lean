import GroupUnroll.CommandLine

/-! # The program -/

/-- Print what the command prints and end with its code. -/
def main (arguments : List String) : IO UInt32 := do
  let outcome := GroupUnroll.CommandLine.run arguments
  IO.print outcome.stdout
  IO.eprint outcome.stderr
  return outcome.code
