import Toolbench.Tool.Definition

/-!
# Catalogs

A catalog keeps tools in order, finds them by name through an index of positions,
and remembers which names were given a new definition.
-/

namespace Toolbench

/-- What happens when a name is registered that a tool has already. -/
inductive DuplicatePolicy where
  | reject
  | overwrite
deriving DecidableEq

structure DuplicateTool where
  name : String
deriving DecidableEq

def DuplicateTool.message (error : DuplicateTool) : String :=
  "tool '" ++ error.name ++ "' is already registered"

/-- Tools in order, with the position of each name. -/
structure Catalog where
  tools : List Tool := []
  /-- The position of each name among the tools. -/
  index : List (String × Nat) := []
  /-- The names that were given a new definition, one entry for each time. -/
  overwritten : List String := []

namespace Catalog

def empty : Catalog := {}

def size (catalog : Catalog) : Nat :=
  catalog.tools.length

def names (catalog : Catalog) : List String :=
  catalog.tools.map (·.name)

def contains (catalog : Catalog) (name : String) : Bool :=
  (catalog.index.lookup name).isSome

def find? (catalog : Catalog) (name : String) : Option Tool :=
  (catalog.index.lookup name).bind fun position => catalog.tools[position]?

/-- Adds a tool at the end, or in place of the one with its name. -/
def insert (catalog : Catalog) (tool : Tool) : Catalog :=
  match catalog.index.lookup tool.name with
  | some position =>
      { catalog with
        tools := catalog.tools.set position tool
        overwritten := catalog.overwritten ++ [tool.name] }
  | none =>
      { catalog with
        tools := catalog.tools ++ [tool]
        index := (tool.name, catalog.tools.length) :: catalog.index }

/-- Adds a tool, unless its name is taken and the policy refuses that. -/
def register (policy : DuplicatePolicy) (catalog : Catalog) (tool : Tool) :
    Except DuplicateTool Catalog :=
  if policy = .reject ∧ catalog.contains tool.name then .error ⟨tool.name⟩
  else .ok (catalog.insert tool)

/-- Adds tools one after the other; fails at the first one that is refused. -/
def registerAll (policy : DuplicatePolicy) (catalog : Catalog) :
    List Tool → Except DuplicateTool Catalog
  | [] => .ok catalog
  | tool :: rest =>
      match register policy catalog tool with
      | .ok next => registerAll policy next rest
      | .error error => .error error

end Catalog

end Toolbench
