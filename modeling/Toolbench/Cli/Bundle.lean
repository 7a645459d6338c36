import Toolbench.Config.File
import Toolbench.Json.Parser
import Toolbench.Text.Hex

/-!
# Bundles

A bundle is what a run of the program finds: the files, the directory that it is run in, the
variables that are set and the home directory of the account.  It is written as a JSON object.
-/

namespace Toolbench

namespace Cli

/-- What a run finds. -/
structure Bundle where
  files : Files.Tree := .empty
  login : Config.Login := {}

namespace Bundle

/-- The content of a file: a text, or an object with its bytes in hexadecimal digits. -/
def content? : Json → Option Text.Bytes
  | .string text => some (Text.Utf8.encode text)
  | value => do Text.Hex.bytes? (← (← value.get? "hex").string?).toList

/-- A tree with one more file; a path that ends in a slash is a directory. -/
def addFile? (tree : Files.Tree) (file : String × Json) : Option Files.Tree :=
  let place := Files.Place.ofPath tree.start (Text.Utf8.encode file.1)
  if file.1.toList.getLast? = some '/' then some (tree.put place .directory)
  else do return tree.put place (.file (← content? file.2))

/-- A tree with more files, which replace those at the same places. -/
def addFiles? (tree : Files.Tree) (files : List (String × Json)) : Option Files.Tree :=
  files.foldlM addFile? tree

/-- The members of an object in another one; one that is not there has none. -/
def membersOf? (value : Json) (key : String) : Option (List (String × Json)) :=
  match value.get? key with
  | none => some []
  | some (.object members) => some members
  | some _ => none

/-- The text of a member of an object, which may be absent. -/
def textOf? (value : Json) (key : String) : Option (Option String) :=
  match value.get? key with
  | none => some none
  | some member => member.string?.map some

/-- The bundle that a value writes.  Without a directory the program is run in the root. -/
def ofJson? (value : Json) : Option Bundle := do
  let directory := (← textOf? value "directory").getD "/"
  let start := Files.Place.ofPath [] (Text.Utf8.encode directory)
  let files ← addFiles? (.empty start) (← membersOf? value "files")
  let environment ← (← membersOf? value "env").mapM fun (name, value) => do
    return (name, ← value.string?)
  return { files, login := { environment, accountHome := ← textOf? value "home" } }

def ofText? (text : String) : Option Bundle := do
  ofJson? (← (Json.parse text).toOption)

end Bundle

end Cli

end Toolbench
