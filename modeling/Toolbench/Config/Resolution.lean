import Toolbench.Adapter.Limits
import Toolbench.Config.File
import Toolbench.Url.Endpoint

/-!
# Resolving a configuration

Each setting is decided by the highest layer that supplies it: the command line,
the environment, the configuration file, and last a default.
-/

namespace Toolbench

namespace Config

/-- What the command line says. -/
structure Overrides where
  configPath : Option String := none
  cluster : Option String := none
  toolsDir : Option String := none
  maxTurns : Option Nat := none
  endpoint : Option String := none
  model : Option String := none
  duplicatePolicy : Option DuplicatePolicy := none
  verbose : Bool := false

structure Settings where
  cluster : Option String
  apiKey : Option String
  endpoint : String
  model : String
  systemPrompt : Option String
  maxTurns : Nat
  toolsDir : String
  duplicatePolicy : DuplicatePolicy
  adapters : AdapterSection
  verbose : Bool
deriving DecidableEq

inductive Fault where
  | file (fault : FileFault)
  | turnsText (value : String)
  | noTurns
  | policyText (word : String)

namespace Fault

def message : Fault → String
  | file fault => fault.message
  | turnsText value =>
      "invalid TOOLSMITH_MAX_TURNS '" ++ value ++ "' (expected a positive integer)"
  | noTurns => "max_turns must be at least 1"
  | policyText word => DuplicatePolicy.unknownMessage word

def cause? : Fault → Option String
  | file fault => some fault.cause
  | _ => none

end Fault

def defaultEndpoint : String :=
  "https://openrouter.ai/api/v1/chat/completions"

def defaultModel : String :=
  "openai/gpt-4o-mini"

/-- Where scripts are, if nothing says otherwise; without a home directory, where programs run. -/
def defaultToolsDir (login : Login) : String :=
  match login.home? with
  | some home => joinPath (userDirectory home) "tools"
  | none => "tools"

/-- A path text with the home directory for a tilde in front. -/
def expandHome (login : Login) (path : String) : String :=
  match path.toList, login.home? with
  | '~' :: '/' :: rest, some home =>
      if rest.head? = some '/' then String.ofList rest else joinPath home (String.ofList rest)
  | _, _ => path

/-- A natural number below `2 ^ 64`: digits, which a plus may precede. -/
def word64? (text : List Char) : Option Nat :=
  let digits := if text.head? = some '+' then text.tail else text
  if digits.isEmpty || !digits.all Char.isDigit then none
  else
    let value := digits.foldl (fun n c => n * 10 + (c.toNat - 0x30)) 0
    if value < 0x10000000000000000 then some value else none

/-- The selected cluster; a blank one is none. -/
def resolveCluster (file : File) (vars : Environment) (overrides : Overrides) : Option String :=
  (overrides.cluster <|> vars.get? "TOOLSMITH_CLUSTER" <|> file.cluster).filter
    fun cluster => !Text.isBlankText cluster

def resolveEndpoint (file : File) (vars : Environment) (overrides : Overrides) : String :=
  match overrides.endpoint <|> vars.get? "AI_API_ENDPOINT" <|> file.endpoint with
  | some endpoint => Endpoint.normalize endpoint
  | none => defaultEndpoint

def resolveModel (file : File) (vars : Environment) (overrides : Overrides) : String :=
  (overrides.model <|> vars.get? "AI_MODEL" <|> file.model).getD defaultModel

/-- The number of turns of a conversation, which is positive. -/
def resolveMaxTurns (file : File) (vars : Environment) (overrides : Overrides) :
    Except Fault Nat := do
  let turns ←
    match overrides.maxTurns, vars.get? "TOOLSMITH_MAX_TURNS" with
    | some turns, _ => .ok turns
    | none, some value =>
        match word64? (Text.trimBlanks value.toList) with
        | some turns => .ok turns
        | none => .error (.turnsText value)
    | none, none => .ok file.maxTurns
  if turns = 0 then .error .noTurns else .ok turns

/-- The directory of scripts that a file names, unless it comes to nothing. -/
def fileToolsDir (login : Login) (file : File) : Option String :=
  ((file.toolsDir.map login.environment.expand).filter (· ≠ "")).map (expandHome login)

def resolveToolsDir (file : File) (vars : Environment) (login : Login)
    (overrides : Overrides) : String :=
  (overrides.toolsDir <|> vars.get? "TOOLSMITH_TOOLS_DIR" <|> fileToolsDir login file).getD
    (defaultToolsDir login)

def resolvePolicy (file : File) (vars : Environment) (overrides : Overrides) :
    Except Fault DuplicatePolicy :=
  match overrides.duplicatePolicy, vars.get? "TOOLSMITH_DUPLICATE_POLICY" with
  | some policy, _ => .ok policy
  | none, some text =>
      match DuplicatePolicy.ofText text with
      | .ok policy => .ok policy
      | .error word => .error (.policyText word)
  | none, none => .ok file.duplicatePolicy

def resolveVerbose (file : File) (vars : Environment) (overrides : Overrides) : Bool :=
  let said := (vars.get? "AI_VERBOSE").map fun value =>
    ["true", "1", "yes"].contains (Text.lower value)
  overrides.verbose || (said <|> file.verbose).getD false

/--
The settings of the layers.  The file's directory of scripts may refer to variables
of the login and to its home directory; the layer may be of other variables.
-/
def resolve (file : File) (vars : Environment) (login : Login) (overrides : Overrides) :
    Except Fault Settings := do
  let maxTurns ← resolveMaxTurns file vars overrides
  let duplicatePolicy ← resolvePolicy file vars overrides
  return {
    cluster := resolveCluster file vars overrides
    apiKey := vars.get? "AI_API_KEY" <|> vars.get? "OPENROUTER_API_KEY"
    endpoint := resolveEndpoint file vars overrides
    model := resolveModel file vars overrides
    systemPrompt := vars.get? "AI_SYSTEM_PROMPT" <|> file.systemPrompt
    maxTurns
    toolsDir := resolveToolsDir file vars login overrides
    duplicatePolicy
    adapters := file.adapters
    verbose := resolveVerbose file vars overrides }

/-- The settings of the layers, with the file that the command line or the search tells. -/
def load (tree : Files.Tree) (vars : Environment) (login : Login) (overrides : Overrides) :
    Except Fault Settings :=
  match File.load tree login overrides.configPath with
  | .ok file => resolve file vars login overrides
  | .error fault => .error (.file fault)

/-- The settings of a login, whose own variables are the layer. -/
def ofLogin (tree : Files.Tree) (login : Login) (overrides : Overrides) :
    Except Fault Settings :=
  load tree login.environment login overrides

namespace Settings

def limits (settings : Settings) : Adapter.Limits where
  httpTimeoutMillis := settings.adapters.httpTimeoutSecs * 1000
  shellTimeoutMillis := settings.adapters.shellTimeoutSecs * 1000
  maxOutputBytes := settings.adapters.maxOutputBytes

/-- What a conversation starts with: the selected cluster, then the prompt. -/
def prompt (settings : Settings) : Option String :=
  let selected := settings.cluster.map fun cluster =>
    "The currently selected cluster is '" ++ cluster ++ "'."
  match selected, settings.systemPrompt with
  | some line, some prompt => some (line ++ "\n\n" ++ prompt)
  | some line, none => some line
  | none, prompt => prompt

end Settings

end Config

end Toolbench
