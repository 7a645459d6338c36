import Toolbench.Yaml.Token

/-!
# YAML nodes

What a document is made of.  An alias stands for a node that is spelled elsewhere;
it is followed only where the node is read, so a node may even hold an alias of
itself.
-/

namespace Toolbench

namespace Yaml

/-- A node of a document; aliases refer to numbered anchors. -/
inductive Node where
  | scalar (tag : Option Tag) (style : ScalarStyle) (text : String)
  | sequence (tag : Option Tag) (items : List Node)
  | mapping (tag : Option Tag) (entries : List (Node × Node))
  | alias (anchor : Nat)

namespace Node

/-- A node that is not spelled. -/
def empty : Node := .scalar none .plain ""

mutual

/-- How many parts a node has: a collection counts for its start and its end. -/
def size : Node → Nat
  | .scalar _ _ _ => 1
  | .sequence _ items => 2 + sizeItems items
  | .mapping _ entries => 2 + sizeEntries entries
  | .alias _ => 1

def sizeItems : List Node → Nat
  | [] => 0
  | item :: rest => size item + sizeItems rest

def sizeEntries : List (Node × Node) → Nat
  | [] => 0
  | (key, value) :: rest => size key + size value + sizeEntries rest

end

end Node

/-- The nodes of a document that aliases refer to. -/
abbrev Anchors := List (Nat × Node)

structure Document where
  root : Node
  anchors : Anchors := []

end Yaml

end Toolbench
