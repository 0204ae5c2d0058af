/-
The program: it writes the reply of the command line and exits with its code.
-/

import DynamicLinking.CommandLine

set_option autoImplicit false

/-- Runs the command line. -/
def main (args : List String) : IO UInt32 := do
  let reply := DynamicLinking.CommandLine.run args
  (← IO.getStdout).putStr reply.out
  (← IO.getStderr).putStr reply.err
  return UInt32.ofNat reply.code
