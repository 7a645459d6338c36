import Toolbench.Registry.Catalog
import Toolbench.Text.Case

/-!
# Registries

A registry holds the current catalog and a policy.  Operations give their answer
together with the registry after them; a catalog taken out before stays as it is.
-/

namespace Toolbench

namespace DuplicatePolicy

def name : DuplicatePolicy → String
  | reject => "reject"
  | overwrite => "overwrite"

/-- The policy that a word names exactly. -/
def ofName? (word : String) : Option DuplicatePolicy :=
  [reject, overwrite].find? fun policy => policy.name == word

/-- The policy that a text names in letters of any case; else the text in lower case. -/
def ofText (text : String) : Except String DuplicatePolicy :=
  let word := Text.lower text
  match ofName? word with
  | some policy => .ok policy
  | none => .error word

def unknownMessage (word : String) : String :=
  "invalid duplicate policy '" ++ word ++ "' (must be 'reject' or 'overwrite')"

end DuplicatePolicy

/-- The current catalog and what it does with names that are taken. -/
structure Registry where
  policy : DuplicatePolicy := .reject
  current : Catalog := .empty

namespace Registry

/-- Registers all tools or none; the answer is their number. -/
def registerAll (registry : Registry) (tools : List Tool) :
    Except DuplicateTool Nat × Registry :=
  match registry.current.registerAll registry.policy tools with
  | .ok catalog => (.ok tools.length, { registry with current := catalog })
  | .error error => (.error error, registry)

def register (registry : Registry) (tool : Tool) : Except DuplicateTool Unit × Registry :=
  let (result, registry) := registry.registerAll [tool]
  (result.map fun _ => (), registry)

def replace (registry : Registry) (catalog : Catalog) : Registry :=
  { registry with current := catalog }

def clear (registry : Registry) : Registry :=
  registry.replace .empty

def find? (registry : Registry) (name : String) : Option Tool :=
  registry.current.find? name

end Registry

/-- The entry by which a model is told of a tool. -/
structure FunctionEntry where
  name : String
  description : String
  parameters : Json

namespace FunctionEntry

def ofTool (tool : Tool) : FunctionEntry :=
  ⟨tool.name, tool.description, tool.inputSchema⟩

def toJson (entry : FunctionEntry) : Json :=
  .ofMembers [
    ("type", .string "function"),
    ("function", .ofMembers [
      ("name", .string entry.name),
      ("description", .string entry.description),
      ("parameters", entry.parameters)])]

end FunctionEntry

def Catalog.functionEntries (catalog : Catalog) : List FunctionEntry :=
  catalog.tools.map FunctionEntry.ofTool

end Toolbench
