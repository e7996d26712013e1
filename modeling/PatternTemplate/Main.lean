import PatternTemplate.CommandLine

/-!
# The program

Prints what the command line asks for.
-/

def main (arguments : List String) : IO UInt32 := do
  let outcome := PatternTemplate.CommandLine.run arguments
  (← IO.getStdout).putStr outcome.output
  (← IO.getStderr).putStr outcome.errors
  return outcome.exitCode.toUInt32
