import Toolbench.Files.Tree

/-!
# Directories of scripts

The scripts below a root are the files whose names end like scripts, at any depth,
in ascending order of their places.  Each is shown by the path text that joining the
root and the names below it gives.
-/

namespace Toolbench

namespace Script

open Files
open Text (Bytes)

structure ScriptFile where
  /-- The names that lead from the root to the file. -/
  place : Place
  /-- The path text of the file, as messages show it. -/
  path : String
  content : Bytes

/-- A root whose path text is no text. -/
structure UnreadableRoot where
  shown : String

def UnreadableRoot.message (fault : UnreadableRoot) : String :=
  "tools directory path is not valid UTF-8: " ++ fault.shown

def nameEndings : List String :=
  [".yaml", ".yml"]

def isScriptName (name : Name) : Bool :=
  (Text.Utf8.decode? name).isSome &&
    nameEndings.any fun ending => (Text.Utf8.encode ending).isSuffixOf name

def isScriptPlace (place : Place) : Bool :=
  place.getLast?.any isScriptName

/-- A path text with one more name behind it; the empty one is where relative ones start. -/
def below (path : Bytes) (name : Bytes) : Bytes :=
  if path = [] then name else join path name

/--
The path text of a root that names below it are put behind, which is empty where relative
ones start.  There a part that names nothing is refused; at the front of an absolute root
such parts stay as they are written.
-/
def base? (root : Bytes) : Option Bytes :=
  let names := parts (trimSlashes root)
  if isAbsolute root then
    let front := (names.takeWhile isStill).flatMap (· ++ [slash])
    some ((names.dropWhile isStill).foldl below front)
  else names.foldlM enter []
where
  /-- Goes on by one part of the root. -/
  enter (path part : Bytes) : Option Bytes :=
    if path = [] ∧ part = self then some []
    else if path = [] ∧ part = [] then none
    else some (below path part)

def scriptFile (base : Bytes) (file : Place × Bytes) : ScriptFile where
  place := file.1
  path := shown (file.1.foldl below base)
  content := file.2

def scriptsAmong (base : Bytes) (files : List (Place × Bytes)) : List ScriptFile :=
  ((files.filter fun file => isScriptPlace file.1).mergeSort
    fun a b => Place.before a.1 b.1).map (scriptFile base)

/-- The scripts below a root, in order; a root that is no directory has none. -/
def discover (root : Bytes) (tree : Tree) : Except UnreadableRoot (List ScriptFile) :=
  match tree.directory? root with
  | none => .ok []
  | some place =>
      if (Text.Utf8.decode? root).isNone then .error ⟨shown root⟩
      else
        match base? root with
        | none => .ok []
        | some base => .ok (scriptsAmong base (tree.filesBelow place))

end Script

end Toolbench
