import Toolbench.Text.Split

/-!
# Places of the rehearsed machine

The directories that are there, and the names that lead to them.
-/

namespace Toolbench

namespace Rehearsal

/-- The directories that are there; a point is the one that everything starts in. -/
def directories : List String :=
  [".", "/", "/boot", "/dev", "/etc", "/home", "/media", "/mnt", "/opt", "/proc", "/root", "/run",
    "/srv", "/sys", "/tmp", "/usr", "/usr/bin", "/usr/games", "/usr/include", "/usr/lib",
    "/usr/local", "/usr/local/bin", "/usr/local/lib", "/usr/sbin", "/usr/share", "/usr/src", "/var",
    "/var/cache", "/var/lib", "/var/log", "/var/tmp"]

/-- The names at the top that stand for directories below. -/
def links : List (List Char × List (List Char)) :=
  ["bin", "lib", "sbin"].map fun name => (name.toList, ["usr".toList, name.toList])

/-- The steps of a name, without those that stay where they are or lead back. -/
def steps (name : List Char) : List (List Char) :=
  (Text.splitAt '/' name).foldl (fun taken step =>
    if step.isEmpty || step = ['.'] then taken
    else if step = ['.', '.'] && taken ≠ [] && taken.getLast? ≠ some step then taken.dropLast
    else taken ++ [step]) []

def fromTop (names : List (List Char)) : String :=
  String.ofList ('/' :: ['/'].intercalate (names.dropWhile (· = ['.', '.'])))

def resolve (directory name : String) : String :=
  if name.startsWith "/" then fromTop (steps name.toList)
  else if directory.startsWith "/" then fromTop (steps (directory.toList ++ '/' :: name.toList))
  else
    match steps (directory.toList ++ '/' :: name.toList) with
    | [] => "."
    | names => String.ofList (['/'].intercalate names)

def follow (name : String) : String :=
  match steps name.toList with
  | first :: rest =>
      if name.startsWith "/" then fromTop ((links.lookup first).getD [first] ++ rest) else name
  | [] => name

def parent (name : String) : String :=
  let names := (Text.splitAt '/' name.toList).dropLast
  if name.startsWith "/" then fromTop (names.drop 1)
  else if names.isEmpty then "." else String.ofList (['/'].intercalate names)

def isDirectory (name : String) : Bool :=
  directories.contains (follow name) || (steps name.toList).all (· = ['.', '.'])

def programs : List String :=
  ["cat", "echo", "false", "printf", "pwd", "sh", "dash", "sleep", "true"]

def programName (program : String) : String :=
  (["/bin/", "/usr/bin/"].find? fun place => program.startsWith place).elim program
    fun place => (program.drop place.length).toString

/-- Whether a program is found by its name in the places that are to be searched, if told. -/
def isReached (places? : Option String) (program : String) : Bool :=
  program.contains '/' ||
    match places? with
    | none => true
    | some places =>
        (Text.splitAt ':' places.toList).any fun place =>
          ["/bin", "/usr/bin"].contains (resolve "." (String.ofList place))

end Rehearsal

end Toolbench
