import Toolbench.Adapter.Host
import Toolbench.Adapter.Limits
import Toolbench.Adapter.Outcome
import Toolbench.Invocation.Command
import Toolbench.Tool.Arguments

/-!
# Invoking tools

A tool is invoked on prepared arguments by the adapter for its kind of handler.
What a program or a peer answers beyond the limit in force is a failure.
-/

namespace Toolbench

namespace Adapter

/-- The surroundings of tool runs: limits, and the variables of the process. -/
structure Setting where
  limits : Limits := {}
  environment : Environment := []

variable {ω : Type}

/-- Seconds as milliseconds, or else the usual limit. -/
def timeLimit (seconds : Option Nat) (usual : Nat) : Nat :=
  (seconds.map (· * 1000)).getD usual

/-- The text of each header; of several values of a name the last one counts. -/
def headerTexts (headers : List (String × Text.Bytes)) : Headers :=
  headers.foldl (fun texts (name, value) => texts.set name (Text.Utf8.decodeLossy value)) []

def httpOutcome (limits : Limits) (url : Url) (timeoutMillis : Nat) :
    Exchange → Except Fault HttpOutput
  | .timedOut => .error (.timedOut timeoutMillis)
  | .failed fault => .error (.network url fault)
  | .answered answer =>
      match answer.body with
      | none => .error (.network url .brokenBody)
      | some body =>
          if limits.maxOutputBytes < body.length then
            .error (.outputTooLarge body.length limits.maxOutputBytes)
          else
            .ok { status := answer.status, headers := headerTexts answer.headers,
                  body := Text.Utf8.decodeLossy body }

def callHttp (host : Host ω) (setting : Setting) (handler : HttpHandler)
    (arguments : Arguments) : StateM ω (Except Fault HttpOutput) := do
  match Request.render setting.environment handler arguments with
  | .error fault => return .error (.request fault)
  | .ok request =>
      let timeout := timeLimit handler.timeoutSecs setting.limits.httpTimeoutMillis
      let exchange ← host.deliver request (some timeout)
      return httpOutcome setting.limits request.url timeout exchange

/-- What the end of a run amounts to, under a limit on the output. -/
def shellOutcome (program : String) (maxOutputBytes timeoutMillis : Nat) :
    RunEnd → Except Fault ShellOutput
  | .notStarted reason => .error (.notStarted program reason)
  | .lost reason => .error (.lost program reason)
  | .timedOut => .error (.timedOut timeoutMillis)
  | .ended (some 0) stdout stderr =>
      if maxOutputBytes < stdout.length then
        .error (.outputTooLarge stdout.length maxOutputBytes)
      else
        .ok { stdout := Text.Utf8.decodeLossy stdout, stderr := Text.Utf8.decodeLossy stderr,
              exitCode := 0 }
  | .ended code stdout stderr =>
      .error (.exit code (Text.Utf8.decodeLossy stdout) (Text.Utf8.decodeLossy stderr))

def callShell (host : Host ω) (setting : Setting) (tool : String) (handler : ShellHandler)
    (arguments : Arguments) : StateM ω (Except Fault ShellOutput) := do
  match Command.render handler.command arguments with
  | [] => return .error (.emptyCommand tool)
  | program :: words =>
      let timeout := timeLimit handler.timeoutSecs setting.limits.shellTimeoutMillis
      let limit := handler.maxOutputBytes.getD setting.limits.maxOutputBytes
      let ended ← host.run {
        program, arguments := words, workingDir := handler.workingDir,
        environment :=
          setting.environment.extend (setting.environment.expandAll handler.env),
        timeoutMillis := timeout }
      return shellOutcome program limit timeout ended

def invokeHttp (host : Host ω) (setting : Setting) (tool : Tool) (arguments : Arguments) :
    StateM ω (Except Fault Output) := do
  match tool.handler with
  | .http handler => return (← callHttp host setting handler arguments).map .http
  | .shell _ => return .error (.unsupported "http" tool.name)

def invokeShell (host : Host ω) (setting : Setting) (tool : Tool) (arguments : Arguments) :
    StateM ω (Except Fault Output) := do
  match tool.handler with
  | .shell handler => return (← callShell host setting tool.name handler arguments).map .shell
  | .http _ => return .error (.unsupported "shell" tool.name)

/-- Invokes a tool by the adapter for its handler. -/
def invoke (host : Host ω) (setting : Setting) (tool : Tool) (arguments : Arguments) :
    StateM ω (Except Fault Output) :=
  match tool.handler with
  | .http _ => invokeHttp host setting tool arguments
  | .shell _ => invokeShell host setting tool arguments

end Adapter

end Toolbench
