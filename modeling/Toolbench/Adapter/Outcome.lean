import Toolbench.Invocation.Exchange
import Toolbench.Json.Printer

/-!
# Outcomes of tool runs

What a tool answers, and why a run fails.
-/

namespace Toolbench

namespace Adapter

structure HttpOutput where
  status : Nat
  /-- The text of each header, in ascending order of the names. -/
  headers : Headers
  body : String
deriving DecidableEq

structure ShellOutput where
  stdout : String
  stderr : String
  exitCode : Nat
deriving DecidableEq

inductive Output where
  | http (output : HttpOutput)
  | shell (output : ShellOutput)
deriving DecidableEq

namespace Output

def kindName : Output → String
  | http _ => "http"
  | shell _ => "shell"

def toJson : Output → Json
  | http output =>
      .object [
        ("status", .ofNat output.status),
        ("headers", .object (output.headers.map fun (name, value) => (name, .string value))),
        ("body", .string output.body)]
  | shell output =>
      .object [
        ("stdout", .string output.stdout),
        ("stderr", .string output.stderr),
        ("exit_code", .ofNat output.exitCode)]

end Output

/-- Why a tool run fails. -/
inductive Fault where
  | network (url : Url) (fault : SendFault)
  | timedOut (millis : Nat)
  /-- The program reported a failure; without a code if a signal ended it. -/
  | exit (code : Option Nat) (stdout stderr : String)
  | notStarted (program reason : String)
  | lost (program reason : String)
  | outputTooLarge (size limit : Nat)
  | request (fault : Request.Fault)
  | emptyCommand (tool : String)
  | unsupported (kind tool : String)
deriving DecidableEq

namespace Fault

/-- The number that stands for how a program ended. -/
def codeText : Option Nat → String
  | some code => toString code
  | none => "-1"

def message : Fault → String
  | network url fault => "request to " ++ url.text ++ " failed: " ++ fault.message
  | timedOut millis => "execution timed out after " ++ toString (millis / 1000) ++ " seconds"
  | exit code _ stderr => "command exited with code " ++ codeText code ++ ": " ++ stderr
  | notStarted program reason => "failed to spawn '" ++ program ++ "': " ++ reason
  | lost program reason =>
      "failed to spawn '" ++ program ++ "': failed to wait for process: " ++ reason
  | outputTooLarge size limit =>
      "output too large: " ++ toString size ++ " bytes (max: " ++ toString limit ++ " bytes)"
  | request fault => "failed to build request: " ++ fault.message
  | emptyCommand tool => "failed to build request: tool '" ++ tool ++ "' has an empty command"
  | unsupported kind tool => kind ++ " adapter cannot run tool '" ++ tool ++ "'"

end Fault

end Adapter

end Toolbench
