import Toolbench.Cli.Run
import Toolbench.Rehearsal.Host

/-!
The program.  It takes its arguments from the command line and the bundle that it
runs on from standard input; the tools are rehearsed, so that nothing is touched.
-/

open Toolbench

/-- Runs the program, and ends with its exit code. -/
def main (arguments : List String) : IO UInt32 := do
  let text ← (← IO.getStdin).readToEnd
  match Cli.Bundle.ofText? text with
  | none =>
      IO.eprintln "Error: standard input is no bundle of files and variables"
      return 2
  | some bundle =>
      let (report, ()) := (Cli.run Rehearsal.host bundle arguments).run ()
      IO.print report.stdout
      IO.eprint report.stderr
      return UInt32.ofNat report.code
