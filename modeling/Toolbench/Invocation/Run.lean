import Toolbench.Environment.Basic
import Toolbench.Text.Utf8

/-!
# Runs of programs

A program that is to be run, and how its run ends.
-/

namespace Toolbench

/-- A program that is to be run without any input. -/
structure Launch where
  program : String
  arguments : List String
  /-- Where the program is run, if not where the caller is. -/
  workingDir : Option String
  environment : Environment
  timeoutMillis : Nat

inductive RunEnd where
  | notStarted (reason : String)
  /-- The program was started but its end was not learned. -/
  | lost (reason : String)
  | timedOut
  /-- The program ended; without a code if a signal ended it. -/
  | ended (code : Option Nat) (stdout stderr : Text.Bytes)
deriving DecidableEq

end Toolbench
