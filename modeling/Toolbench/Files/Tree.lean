import Toolbench.Files.Fault
import Toolbench.Files.Path

/-!
# Trees of files

A tree of directories as a finite table of places, and the directory that relative path texts
are looked up in.  The directories on the way to an entry or to that directory are there without
entries of their own.  There are no links and no permissions: every file can be read.
-/

namespace Toolbench

namespace Files

open Text (Bytes)

inductive Item where
  | directory
  | file (content : Bytes)
deriving DecidableEq

/-- Places with what they hold, each place at most once, seen from the start. -/
structure Tree where
  start : Place := []
  entries : List (Place × Item) := []
  distinct : (entries.map (·.1)).Nodup

namespace Tree

def empty (start : Place := []) : Tree where
  start
  entries := []
  distinct := List.nodup_nil

def at? (tree : Tree) (place : Place) : Option Item :=
  match tree.entries.lookup place with
  | some item => some item
  | none =>
      if place.isPrefixOf tree.start ∨
          tree.entries.any (fun entry => place.isPrefixOf entry.1) then
        some .directory
      else none

def others (tree : Tree) (place : Place) : List (Place × Item) :=
  tree.entries.filter fun entry => entry.1 ≠ place

theorem notMem_others (tree : Tree) (place : Place) :
    place ∉ (tree.others place).map (·.1) := by
  simp [others]

theorem others_nodup (tree : Tree) (place : Place) :
    ((tree.others place).map (·.1)).Nodup :=
  tree.distinct.sublist (List.filter_sublist.map _)

def put (tree : Tree) (place : Place) (item : Item) : Tree where
  start := tree.start
  entries := (place, item) :: tree.others place
  distinct := List.nodup_cons.2 ⟨tree.notMem_others place, tree.others_nodup place⟩

/-- The tree without a place and all below it; the directory that it was in stays. -/
def remove (tree : Tree) (place : Place) : Tree :=
  let rest : Tree :=
    { start := tree.start
      entries := tree.entries.filter fun entry => !place.isPrefixOf entry.1
      distinct := tree.distinct.sublist (List.filter_sublist.map _) }
  rest.put place.dropLast .directory

/-- The place that a name leads to from another place; nothing leads up from the root. -/
def step (tree : Tree) (place : Place) (name : Bytes) : Except Fault Place :=
  match tree.at? place with
  | none => .error .missing
  | some (.file _) => .error .noDirectory
  | some .directory =>
      if isStill name then .ok place
      else if name = above then .ok place.dropLast
      else if 255 < name.length then .error .nameTooLong
      else .ok (place ++ [name])

/-- The place that a path text names; it need not hold anything. -/
def placeOf (tree : Tree) (path : Bytes) : Except Fault Place :=
  if path.contains 0 then .error .zeroByte
  else if 4096 ≤ path.length then .error .nameTooLong
  else if path = [] then .error .missing
  else (parts path).foldlM tree.step (if isAbsolute path then [] else tree.start)

def find (tree : Tree) (path : Bytes) : Except Fault Item := do
  match tree.at? (← tree.placeOf path) with
  | some item => .ok item
  | none => .error .missing

def exists? (tree : Tree) (path : Bytes) : Bool :=
  (tree.find path).isOk

def directory? (tree : Tree) (path : Bytes) : Option Place :=
  match tree.placeOf path with
  | .ok place => if tree.at? place = some .directory then some place else none
  | .error _ => none

def textOf (content : Bytes) : Except Fault String :=
  match Text.Utf8.decode? content with
  | some text => .ok text
  | none => .error .noText

def readText (tree : Tree) (path : Bytes) : Except Fault String := do
  match ← tree.find path with
  | .file content => textOf content
  | .directory => .error .isDirectory

/-- The files below a directory, by the names that lead to them from there. -/
def filesBelow (tree : Tree) (place : Place) : List (Place × Bytes) :=
  tree.entries.filterMap fun (location, item) =>
    match item with
    | .file content =>
        if place.isPrefixOf location then some (location.drop place.length, content) else none
    | .directory => none

end Tree

end Files

end Toolbench
