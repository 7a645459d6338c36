import Toolbench.Adapter.Invocation
import Toolbench.Conversation.CallFault
import Toolbench.Conversation.Message
import Toolbench.Json.Parser
import Toolbench.Registry.Basic

/-!
# Running calls

Each call of a model becomes one result message.  The calls of a reply run side by
side and may be completed in any order; each result stands where its call stood.
-/

namespace Toolbench

namespace Dispatch

open Adapter

variable {ω : Type}

def execute (host : Host ω) (setting : Setting) (tool : Tool) (raw : Json) :
    StateM ω (Except CallFault Output) := do
  match tool.prepare raw with
  | .error error => return .error (.validation error)
  | .ok arguments =>
      match ← invoke host setting tool arguments with
      | .ok output => return .ok output
      | .error fault => return .error (.adapter fault)

/-- The arguments that a text spells; a blank text spells none. -/
def parseArguments (tool text : String) : Except CallFault Json :=
  if Text.isBlankText text then .ok (.object [])
  else
    match Json.parse text with
    | .ok value => .ok value
    | .error error => .error (.unreadable tool error)

def resolve (catalog : Catalog) (call : ToolCall) : Except CallFault (Tool × Json) :=
  match call.malformed with
  | some reason => .error (.malformed call.name reason)
  | none =>
      match catalog.find? call.name with
      | none => .error (.unknownTool call.name)
      | some tool => (parseArguments call.name call.arguments).map fun raw => (tool, raw)

/-- Runs a call of one of the tools of the moment. -/
def run (host : Host ω) (setting : Setting) (catalog : ω → Catalog) (call : ToolCall) :
    StateM ω (Except CallFault Output) := do
  match resolve (catalog (← get)) call with
  | .error fault => return .error fault
  | .ok (tool, raw) => execute host setting tool raw

def content : Except CallFault Output → String
  | .ok output => output.toJson.write
  | .error fault => fault.payload

def answer (host : Host ω) (setting : Setting) (catalog : ω → Catalog) (call : ToolCall) :
    StateM ω Message := do
  return .toolResult call.id (content (← run host setting catalog call))

/-- An order in which a number of calls is completed: each place once. -/
structure Completion (count : Nat) where
  places : List Nat
  everyPlace : places.Perm (List.range count)

def Completion.asRequested (count : Nat) : Completion count :=
  ⟨List.range count, .refl _⟩

/-- Completes the calls at the given places; each result goes into the slot of its call. -/
def fillSlots (host : Host ω) (setting : Setting) (catalog : ω → Catalog)
    (calls : List ToolCall) : List Nat → List (Option Message) →
    StateM ω (List (Option Message))
  | [], slots => return slots
  | place :: rest, slots =>
      match calls[place]? with
      | some call => do
          let message ← answer host setting catalog call
          fillSlots host setting catalog calls rest (slots.set place (some message))
      | none => fillSlots host setting catalog calls rest slots

/-- The result messages of calls, in the order of the calls. -/
def answers (host : Host ω) (setting : Setting) (catalog : ω → Catalog)
    (calls : List ToolCall) (completion : Completion calls.length) :
    StateM ω (List Message) := do
  let empty := List.replicate calls.length none
  let slots ← fillSlots host setting catalog calls completion.places empty
  return slots.reduceOption

end Dispatch

end Toolbench
