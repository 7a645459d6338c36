import Toolbench.Template.Basic
import Toolbench.Text.Blank

/-!
# Handlers

What a tool does when it is called: send a web request or run a command.
-/

namespace Toolbench

/-- A web request with placeholders in its address, its header values and its body. -/
structure HttpHandler where
  method : String := "GET"
  url : String
  /-- Header values by name, in ascending order of the names. -/
  headers : List (String × String) := []
  body : Option String := none
  timeoutSecs : Option Nat := none
deriving DecidableEq

/-- A program with placeholders in its arguments. -/
structure ShellHandler where
  /-- The program and its arguments. -/
  command : List String
  timeoutSecs : Option Nat := none
  workingDir : Option String := none
  /-- Variables for the program by name, in ascending order of the names. -/
  env : List (String × String) := []
  maxOutputBytes : Option Nat := none
deriving DecidableEq

inductive Handler where
  | http (handler : HttpHandler)
  | shell (handler : ShellHandler)
deriving DecidableEq

namespace Handler

def methods : List String :=
  ["GET", "POST", "PUT", "PATCH", "DELETE", "HEAD"]

inductive Fault where
  | unsupportedMethod (method : String)
  | noUrl
  | noCommand
  | programPlaceholder (program : String)
deriving DecidableEq

def Fault.message : Fault → String
  | .unsupportedMethod method =>
      "unsupported HTTP method '" ++ method ++ "' (expected one of " ++
        ", ".intercalate methods ++ ")"
  | .noUrl => "http handler requires a non-empty 'url'"
  | .noCommand => "shell handler requires a non-empty 'command'"
  | .programPlaceholder program =>
      "shell command program '" ++ program ++ "' cannot contain placeholders"

def kindName : Handler → String
  | http _ => "http"
  | shell _ => "shell"

/-- The texts of a handler that may hold placeholders. -/
def templates : Handler → List String
  | http handler =>
      handler.url :: (handler.headers.map (·.2) ++ handler.body.toList)
  | shell handler => handler.command

/-- Checks the method and the address, or the program. -/
def check : Handler → Except Fault Unit
  | http handler => do
      if !methods.contains handler.method then
        throw (.unsupportedMethod handler.method)
      if Text.isBlankText handler.url then
        throw .noUrl
  | shell handler =>
      match handler.command with
      | [] => throw .noCommand
      | program :: _ => do
          if Text.isBlankText program then
            throw .noCommand
          if !(Template.placeholders program).isEmpty then
            throw (.programPlaceholder program)

end Handler

end Toolbench
