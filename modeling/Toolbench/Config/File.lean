import Toolbench.Environment.Basic
import Toolbench.Files.Tree
import Toolbench.Registry.Basic
import Toolbench.Text.Blank
import Toolbench.Yaml.Decode

/-!
# Configuration files

A configuration file is a document of optional sections.  Keys that it does not
know are passed over.  Without a path, the first file that exists on a fixed list
of paths is read; where there is none, everything is left to the defaults.
-/

namespace Toolbench

namespace Config

open Yaml Yaml.Decoder

structure AdapterSection where
  httpTimeoutSecs : Nat := 30
  shellTimeoutSecs : Nat := 30
  maxOutputBytes : Nat := 1048576
deriving DecidableEq

/-- What a configuration file says. -/
structure File where
  cluster : Option String := none
  endpoint : Option String := none
  model : Option String := none
  maxTurns : Nat := 10
  systemPrompt : Option String := none
  toolsDir : Option String := none
  duplicatePolicy : DuplicatePolicy := .reject
  adapters : AdapterSection := {}
  verbose : Option Bool := none
deriving DecidableEq

namespace File

def apiField (key : String) (file : File) : Decoder File := fun path node =>
  match key with
  | "endpoint" => do return { file with endpoint := ← optional string path node }
  | _ => do return { file with model := ← optional string path node }

def clientField (key : String) (file : File) : Decoder File := fun path node =>
  match key with
  | "max_turns" => do return { file with maxTurns := ← natural "usize" path node }
  | _ => do return { file with systemPrompt := ← optional string path node }

def toolsField (key : String) (file : File) : Decoder File := fun path node =>
  match key with
  | "dir" => do return { file with toolsDir := ← optional string path node }
  | _ => do
      let policies := [DuplicatePolicy.reject, .overwrite]
      let policy ← variant (policies.map (·.name)) DuplicatePolicy.ofName? path node
      return { file with duplicatePolicy := policy }

def adapterField (key : String) (adapters : AdapterSection) : Decoder AdapterSection :=
  fun path node =>
    match key with
    | "http_timeout_secs" => do
        return { adapters with httpTimeoutSecs := ← natural "u64" path node }
    | "shell_timeout_secs" => do
        return { adapters with shellTimeoutSecs := ← natural "u64" path node }
    | _ => do return { adapters with maxOutputBytes := ← natural "u64" path node }

def apiKind : RecordKind :=
  ⟨"struct ApiConfig", ["endpoint", "model"], true⟩

def clientKind : RecordKind :=
  ⟨"struct ClientSection", ["max_turns", "system_prompt"], true⟩

def toolsKind : RecordKind :=
  ⟨"struct ToolsConfig", ["dir", "duplicate_policy"], true⟩

def adapterKind : RecordKind :=
  ⟨"struct AdaptersConfig", ["http_timeout_secs", "shell_timeout_secs", "max_output_bytes"],
    true⟩

def kind : RecordKind :=
  ⟨"struct FileConfig", ["cluster", "api", "client", "tools", "adapters", "verbose"], true⟩

def section_ (key : String) (file : File) : Decoder File := fun path node =>
  match key with
  | "cluster" => do return { file with cluster := ← optional string path node }
  | "api" => record apiKind apiField file path node
  | "client" => record clientKind clientField file path node
  | "tools" => record toolsKind toolsField file path node
  | "adapters" => do
      return { file with adapters := ← record adapterKind adapterField {} path node }
  | _ => do return { file with verbose := ← optional bool path node }

/-- What a text says; blank text says nothing. -/
def ofText (text : String) : Except Refusal File :=
  if Text.isBlankText text then .ok {}
  else Yaml.decode (record kind section_ {}) text

end File

/-- A path text with one more name behind it; behind an empty one the name stands alone. -/
def joinPath (path name : String) : String :=
  if path.toList.getLast?.all (· = '/') then path ++ name else path ++ "/" ++ name

/-- What programs find of the account that they run under: the variables that are set, and the
home directory that the system keeps for it, if any. -/
structure Login where
  environment : Environment := []
  accountHome : Option String := none

/-- The home directory, if it is known; an empty variable does not tell it. -/
def Login.home? (login : Login) : Option String :=
  (login.environment.get? "HOME").filter (· ≠ "") <|> login.accountHome

def userDirectory (home : String) : String :=
  joinPath (joinPath home ".config") "toolsmith"

/-- Where a configuration file is looked for, the first place first. -/
def searchPaths (login : Login) : List String :=
  [".toolsmith.yaml", ".toolsmith.yml"] ++
    match login.home? with
    | some home =>
        ["toolsmith.yaml", "toolsmith.yml"].map (joinPath (userDirectory home))
    | none => []

inductive FileFault where
  | unreadable (path : String) (fault : Files.Fault)
  | refused (path : String) (refusal : Refusal)

namespace FileFault

def message : FileFault → String
  | unreadable path _ => "Failed to read config file: " ++ path
  | refused path _ => "Failed to parse config file: " ++ path

def cause : FileFault → String
  | unreadable _ fault => fault.message
  | refused _ refusal => refusal.message

end FileFault

def pathBytes (path : String) : Text.Bytes :=
  Text.Utf8.encode path

def File.read (tree : Files.Tree) (path : String) : Except FileFault File :=
  match tree.readText (pathBytes path) with
  | .error fault => .error (.unreadable path fault)
  | .ok text =>
      match File.ofText text with
      | .ok file => .ok file
      | .error refusal => .error (.refused path refusal)

/-- What the file of a path says, or else the first file that is found. -/
def File.load (tree : Files.Tree) (login : Login) (path? : Option String) :
    Except FileFault File :=
  match path? <|> (searchPaths login).find? fun path => tree.exists? (pathBytes path) with
  | some path => File.read tree path
  | none => .ok {}

end Config

end Toolbench
