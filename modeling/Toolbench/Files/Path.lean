import Toolbench.Text.Utf8

/-!
# Path texts

A path text names a place by file names between slashes: from the root if it starts with a
slash, and else from where it is looked up.  It may be any bytes; joining and showing it never
looks at what is there.
-/

namespace Toolbench

namespace Files

open Text (Bytes)

abbrev Name := Bytes

/-- A place: the names on the way to it from the root. -/
abbrev Place := List Name

def slash : UInt8 := 0x2F

/-- The name of a directory in itself. -/
def self : Name := [0x2E]

/-- The name of the directory above in each directory. -/
def above : Name := [0x2E, 0x2E]

/-- Whether a path text leads to the same place wherever it is looked up. -/
def isAbsolute (path : Bytes) : Bool :=
  path.head? = some slash

def parts : Bytes → List Bytes
  | [] => [[]]
  | byte :: rest =>
      if byte = slash then [] :: parts rest
      else
        match parts rest with
        | [] => [[byte]]
        | part :: others => (byte :: part) :: others

/-- Whether a part of a path text leads nowhere else. -/
def isStill (part : Bytes) : Bool :=
  part = [] || part = self

def trimSlashes (path : Bytes) : Bytes :=
  (path.reverse.dropWhile (· = slash)).reverse

def join (path part : Bytes) : Bytes :=
  if path.getLast? = some slash then path ++ part else path ++ slash :: part

/-- The place that a path text names from a directory, if nothing in it leads up again. -/
def Place.ofPath (start : Place) (path : Bytes) : Place :=
  (if isAbsolute path then [] else start) ++ (parts path).filter fun part => !isStill part

def shown (path : Bytes) : String :=
  Text.Utf8.decodeLossy path

/-- Whether a name is written with less than another: the order of their bytes. -/
def Name.before : Name → Name → Bool
  | [], _ => true
  | _ :: _, [] => false
  | a :: x, b :: y => a < b || (a == b && Name.before x y)

/-- Whether a place comes before another or is the same: the order of their names. -/
def Place.before : Place → Place → Bool
  | [], _ => true
  | _ :: _, [] => false
  | a :: x, b :: y => if a = b then Place.before x y else Name.before a b

end Files

end Toolbench
