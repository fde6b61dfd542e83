import Reckon.CommandLine.Basic

/-!
# The Program

Runs a command line and writes its output.
-/

open Reckon in
/-- Runs the command line given by the arguments. -/
def main (arguments : List String) : IO UInt32 := do
  let output := CommandLine.run arguments
  (← IO.getStdout).putStr output.stdout
  (← IO.getStderr).putStr output.stderr
  return output.code.toUInt32
