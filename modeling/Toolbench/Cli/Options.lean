import Toolbench.Config.Resolution

/-!
# Command lines

A command line names one task.  Options may stand in front of the task and behind it;
each of the two sides may give an option once, and what stands behind the task wins.
-/

namespace Toolbench

namespace Cli

inductive Task where
  | list
  | check
  | ask (words : List String)
deriving DecidableEq

/-- The task of a name; a prompt starts without words. -/
def Task.ofName? : String → Option Task
  | "list" => some .list
  | "check" => some .check
  | "ask" => some (.ask [])
  | _ => none

structure Options where
  overrides : Config.Overrides
  task : Task

inductive Reading where
  | options (options : Options)
  | help
  | refused

inductive Switch where
  | config
  | cluster
  | toolsDir
  | maxTurns
  | endpoint
  | model
  | duplicatePolicy
  | verbose
deriving DecidableEq

namespace Switch

def ofName? : String → Option Switch
  | "config" => some .config
  | "cluster" => some .cluster
  | "tools-dir" => some .toolsDir
  | "max-turns" => some .maxTurns
  | "api-endpoint" => some .endpoint
  | "model" => some .model
  | "duplicate-policy" => some .duplicatePolicy
  | "verbose" => some .verbose
  | _ => none

/-- The settings with the value of an option, if it may have the value. -/
def set? (overrides : Config.Overrides) : Switch → String → Option Config.Overrides
  | .config, value =>
      if value = "" then none else some { overrides with configPath := some value }
  | .cluster, value => some { overrides with cluster := some value }
  | .toolsDir, value =>
      if value = "" then none else some { overrides with toolsDir := some value }
  | .maxTurns, value => do
      return { overrides with maxTurns := some (← Config.word64? value.toList) }
  | .endpoint, value => some { overrides with endpoint := some value }
  | .model, value => some { overrides with model := some value }
  | .duplicatePolicy, value => do
      let policy ← (DuplicatePolicy.ofText value).toOption
      return { overrides with duplicatePolicy := some policy }
  | .verbose, _ => none

end Switch

structure Side where
  overrides : Config.Overrides := {}
  /-- The options that were given. -/
  used : List Switch := []

namespace Side

/-- The side with one more option, which may be given once. -/
def give? (side : Side) (switch : Switch) (value : String) : Option Side :=
  if side.used.contains switch then none
  else do
    let overrides ← switch.set? side.overrides value
    return { overrides, used := switch :: side.used }

/-- The side with the option that takes no value. -/
def giveVerbose? (side : Side) : Option Side :=
  if side.used.contains .verbose then none
  else some { overrides := { side.overrides with verbose := true },
              used := .verbose :: side.used }

def merge (front back : Side) : Config.Overrides where
  configPath := back.overrides.configPath <|> front.overrides.configPath
  cluster := back.overrides.cluster <|> front.overrides.cluster
  toolsDir := back.overrides.toolsDir <|> front.overrides.toolsDir
  maxTurns := back.overrides.maxTurns <|> front.overrides.maxTurns
  endpoint := back.overrides.endpoint <|> front.overrides.endpoint
  model := back.overrides.model <|> front.overrides.model
  duplicatePolicy := back.overrides.duplicatePolicy <|> front.overrides.duplicatePolicy
  verbose := back.overrides.verbose || front.overrides.verbose

end Side

inductive Argument where
  /-- Two hyphens alone: whatever follows is a word. -/
  | terminator
  | long (name : String) (value : Option String)
  | short (letters : List Char)
  | word

namespace Argument

/-- The value behind the first equals sign. -/
def value? (text : List Char) : Option String :=
  match text.dropWhile (· ≠ '=') with
  | _ :: value => some (String.ofList value)
  | [] => none

/-- What a text looks like; a hyphen alone is a word. -/
def ofText (text : String) : Argument :=
  match text.toList with
  | ['-', '-'] => .terminator
  | '-' :: '-' :: rest => .long (String.ofList (rest.takeWhile (· ≠ '='))) (value? rest)
  | '-' :: first :: rest => .short (first :: rest)
  | _ => .word

/-- Whether a text can be the value of the option in front of it. -/
def isValue (text : String) : Bool :=
  match ofText text with
  | .word => true
  | _ => false

end Argument

structure Draft where
  front : Side := {}
  task : Option Task := none
  back : Side := {}

namespace Draft

def side? (draft : Draft) (change : Side → Option Side) : Option Draft :=
  match draft.task with
  | none => do return { draft with front := ← change draft.front }
  | some _ => do return { draft with back := ← change draft.back }

/-- Takes words, which only a prompt has. -/
def words? (draft : Draft) (words : List String) : Option Draft :=
  match draft.task, words with
  | _, [] => some draft
  | some (.ask before), words => some { draft with task := some (.ask (before ++ words)) }
  | _, _ => none

/-- Takes a word: the name of the task, and then the words of a prompt. -/
def word? (draft : Draft) (word : String) : Option Draft :=
  match draft.task with
  | none => do return { draft with task := some (← Task.ofName? word) }
  | some _ => draft.words? [word]

/-- What the whole command line comes to; a prompt has at least one word. -/
def finish (draft : Draft) : Reading :=
  match draft.task with
  | none | some (.ask []) => .refused
  | some task => .options { overrides := Side.merge draft.front draft.back, task }

def help : List String → Reading
  | [] => .help
  | [name] => if name = "help" || (Task.ofName? name).isSome then .help else .refused
  | _ => .refused

/-- Reads letters behind one hyphen: the draft after them, or what they end the reading with. -/
def letters (draft : Draft) : List Char → Except Reading Draft
  | [] => .ok draft
  | 'h' :: _ => .error .help
  | 'v' :: rest =>
      match draft.side? Side.giveVerbose? with
      | some draft => draft.letters rest
      | none => .error .refused
  | _ => .error .refused

def read (draft : Draft) : List String → Reading
  | [] => draft.finish
  | argument :: rest =>
      match Argument.ofText argument, rest with
      | .terminator, rest => ((draft.words? rest).map finish).getD .refused
      | .word, rest =>
          if draft.task.isNone && argument = "help" then help rest
          else
            match draft.word? argument with
            | some draft => draft.read rest
            | none => .refused
      | .short letters, rest =>
          match draft.letters letters with
          | .ok draft => draft.read rest
          | .error reading => reading
      | .long "help" none, _ => .help
      | .long "verbose" none, rest =>
          match draft.side? Side.giveVerbose? with
          | some draft => draft.read rest
          | none => .refused
      | .long name (some value), rest =>
          match (Switch.ofName? name).bind fun switch => draft.side? (·.give? switch value) with
          | some draft => draft.read rest
          | none => .refused
      | .long name none, value :: rest =>
          if !Argument.isValue value then .refused
          else
            match (Switch.ofName? name).bind fun switch => draft.side? (·.give? switch value) with
            | some draft => draft.read rest
            | none => .refused
      | .long _ none, [] => .refused

end Draft

/-- What the arguments of the program come to. -/
def readOptions (arguments : List String) : Reading :=
  Draft.read {} arguments

def usage : List String :=
  ["Usage: toolsmith [OPTIONS] <TASK>",
    "",
    "Tasks:",
    "  list             List the tools currently registered",
    "  check            Load every tool script and report failures",
    "  ask <PROMPT>...  Send a prompt to the model with the tool catalog attached",
    "",
    "Options:",
    "  --config <PATH>              A configuration file",
    "  --cluster <NAME>             The cluster that the session works against",
    "  --tools-dir <PATH>           The directory of tool scripts",
    "  --max-turns <NUMBER>         The most model calls for one message",
    "  --api-endpoint <URL>         The address of the model",
    "  --model <NAME>               The model",
    "  --duplicate-policy <POLICY>  What happens when a tool is defined twice:",
    "                               reject or overwrite",
    "  -v, --verbose                Tell more of what happens",
    "  -h, --help                   Show this text"]

end Cli

end Toolbench
