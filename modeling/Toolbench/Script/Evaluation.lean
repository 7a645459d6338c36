import Toolbench.Script.Builder
import Toolbench.Text.Case

/-!
# Evaluating scripts

A script is read as a whole, its enabled blocks are declared in order, and its
tools are registered together.  A fault anywhere leaves the registry as it was.
-/

namespace Toolbench

namespace Script

def HandlerBlock.handler (block : HandlerBlock) : Except DeclarationFault Handler :=
  match block.http, block.shell with
  | some http, none => .ok (.http { http with method := Text.upper http.method })
  | none, some shell => do
      let command ←
        match shell.command with
        | .inl line =>
            match CommandLine.split line with
            | .ok words => .ok words
            | .error error => .error (.openQuote error)
        | .inr words => .ok words
      .ok (.shell { command, timeoutSecs := shell.timeoutSecs, workingDir := shell.workingDir,
                    env := shell.env, maxOutputBytes := shell.maxOutputBytes })
  | some _, some _ => .error .bothHandlerKinds
  | none, none => .error .noHandlerKind

namespace Builder

def addParameters (builder : Builder) : List Parameter → Except DeclarationFault Builder
  | [] => .ok builder
  | parameter :: rest =>
      match builder.addParameter parameter with
      | (.ok (), builder) => builder.addParameters rest
      | (.error fault, _) => .error fault

def declareBlock (builder : Builder) (block : ToolBlock) : Except DeclarationFault Builder :=
  match builder.addTool block.name block.description with
  | (.error fault, _) => .error fault
  | (.ok (), builder) => do
      let builder ← builder.addParameters block.parameters
      let handler ← block.handler.handler
      match builder.setHandler handler with
      | (.ok (), builder) => .ok builder
      | (.error fault, _) => .error fault

/-- Declares the tools of the enabled blocks in order. -/
def declareBlocks (builder : Builder) : List ToolBlock → Except DeclarationFault Builder
  | [] => .ok builder
  | block :: rest =>
      if block.enabled then
        match builder.declareBlock block with
        | .ok builder => builder.declareBlocks rest
        | .error fault => .error fault
      else builder.declareBlocks rest

/-- Declares the blocks of a document and registers its tools. -/
def evaluateBlocks (builder : Builder) (blocks : List ToolBlock) (registry : Registry) :
    Except ScriptFault Nat × Registry :=
  match builder.declareBlocks blocks with
  | .ok builder => builder.finish registry
  | .error fault => (.error (.declaration builder.source fault), registry)

/-- Reads a script, declares its tools and registers them; blank text declares none. -/
def evaluate (builder : Builder) (text : String) (registry : Registry) :
    Except ScriptFault Nat × Registry :=
  if Text.isBlankText text then builder.finish registry
  else
    match blocks text with
    | .ok blocks => builder.evaluateBlocks blocks registry
    | .error refusal =>
        (.error (.declaration builder.source (.document refusal)), registry)

end Builder

/-- Evaluates a script that declares nothing yet. -/
def evaluate (source text : String) (registry : Registry) : Except ScriptFault Nat × Registry :=
  Builder.evaluate { source } text registry

end Script

end Toolbench
