import Toolbench.Cli.Bundle
import Toolbench.Cli.Options
import Toolbench.Cli.Report
import Toolbench.Conversation.Client
import Toolbench.Conversation.Completions

/-!
# Running the program

A run resolves the settings, loads the scripts and does its task.  What ends it early
is reported; everything outside the bundle is reached through a host.
-/

namespace Toolbench

namespace Cli

variable {ω : Type}

/-- The wording of a fault of the settings with what is behind it. -/
def settingsFault (fault : Config.Fault) : String :=
  match fault.cause? with
  | some cause => fault.message ++ ": " ++ cause
  | none => fault.message

def clientOf (settings : Config.Settings) (environment : Environment) : Client where
  maxTurns := settings.maxTurns
  systemPrompt := settings.prompt
  setting := { limits := settings.limits, environment }

def conversationReport (paint : Paint) (conversation : Conversation) : Report :=
  match conversation.outcome with
  | .answer text => .answer text
  | .turnLimit => .turnLimit paint conversation.turns

def converse (paint : Paint) (surroundings : Surroundings ω) (client : Client)
    (prompt : String) : StateM ω Report := do
  match ← client.connect surroundings with
  | (.error fault, _) => return .failure paint fault.message
  | (.ok (), client) =>
      match ← client.send surroundings prompt with
      | (.error fault, _) => return .failure paint fault.message
      | (.ok conversation, _) => return conversationReport paint conversation

/-- Sends a prompt to the model, which may use the tools. -/
def ask (paint : Paint) (host : Adapter.Host ω) (settings : Config.Settings)
    (environment : Environment) (catalog : Catalog) (prompt : String) : StateM ω Report := do
  if settings.cluster.isNone then return .noCluster paint
  match Completions.ofKey settings.endpoint settings.model settings.apiKey with
  | .error fault => return .failure paint fault.message
  | .ok service =>
      let surroundings : Surroundings ω :=
        { backend := service.backend host, host, catalog := fun _ => catalog }
      converse paint surroundings (clientOf settings environment) prompt

def perform (paint : Paint) (host : Adapter.Host ω) (bundle : Bundle)
    (settings : Config.Settings) (task : Task) : StateM ω Report := do
  let root := Text.Utf8.encode settings.toolsDir
  match Script.load root bundle.files { policy := settings.duplicatePolicy } with
  | (.error fault, _) =>
      return .failure paint
        ("Failed to load tools from " ++ settings.toolsDir ++ ": " ++ fault.message)
  | (.ok summary, registry) =>
      match task with
      | .list => return .catalog paint registry.current
      | .check => return .summary paint summary
      | .ask words =>
          ask paint host settings bundle.login.environment registry.current
            (" ".intercalate words)

/-- Runs the program on its arguments. -/
def run (host : Adapter.Host ω) (bundle : Bundle) (arguments : List String) :
    StateM ω Report := do
  let paint := Paint.ofEnvironment bundle.login.environment
  match readOptions arguments with
  | .refused => return { code := 2, stderr := ofLines usage }
  | .help => return { stdout := ofLines usage }
  | .options options =>
      match Config.ofLogin bundle.files bundle.login options.overrides with
      | .error fault => return .failure paint (settingsFault fault)
      | .ok settings => perform paint host bundle settings options.task

end Cli

end Toolbench
