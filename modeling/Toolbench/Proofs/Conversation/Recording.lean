import Toolbench.Conversation.Client

/-!
# Recorded requests

Surroundings that keep a record of the requests to the model: what each one held, what came back
and the world on both sides of it.  The record stands beside the world and nothing reads it, so a
run with a record is the run without one.
-/

namespace Toolbench

variable {ω τ α β : Type}

/-! ## Programs beside what they leave alone -/

/-- A program that leaves a second part of its state as it is. -/
def beside (program : StateM ω α) : StateM (ω × τ) α := fun state =>
  let (value, world) := program.run state.1
  (value, world, state.2)

theorem beside_bind (program : StateM ω α) (next : α → StateM ω β) :
    (beside (program >>= next) : StateM (ω × τ) β) =
      beside program >>= fun value => beside (next value) :=
  rfl

theorem beside_get_bind (next : ω → StateM ω α) :
    (beside (get >>= next) : StateM (ω × τ) α) = get >>= fun state => beside (next state.1) :=
  rfl

namespace Adapter

def Host.beside (host : Host ω) : Host (ω × τ) where
  exchange request timeoutMillis := Toolbench.beside (host.exchange request timeoutMillis)
  run launch := Toolbench.beside (host.run launch)

theorem Host.deliver_beside (host : Host ω) (request : Request) (timeoutMillis : Option Nat) :
    (host.beside : Host (ω × τ)).deliver request timeoutMillis =
      Toolbench.beside (host.deliver request timeoutMillis) := by
  unfold Host.deliver
  by_cases hweb : request.url.isWeb
  · rw [if_pos hweb, if_pos hweb]
    rfl
  · rw [if_neg hweb, if_neg hweb]
    rfl

theorem callHttp_beside (host : Host ω) (setting : Setting) (handler : HttpHandler)
    (arguments : Arguments) :
    callHttp (host.beside : Host (ω × τ)) setting handler arguments =
      beside (callHttp host setting handler arguments) := by
  unfold callHttp
  cases Request.render setting.environment handler arguments with
  | error fault => rfl
  | ok request =>
      simp only [Host.deliver_beside, beside_bind]
      rfl

theorem callShell_beside (host : Host ω) (setting : Setting) (tool : String)
    (handler : ShellHandler) (arguments : Arguments) :
    callShell (host.beside : Host (ω × τ)) setting tool handler arguments =
      beside (callShell host setting tool handler arguments) := by
  unfold callShell
  cases Command.render handler.command arguments with
  | nil => rfl
  | cons program words => rfl

theorem invoke_beside (host : Host ω) (setting : Setting) (tool : Tool) (arguments : Arguments) :
    invoke (host.beside : Host (ω × τ)) setting tool arguments =
      beside (invoke host setting tool arguments) := by
  unfold invoke invokeHttp invokeShell
  cases tool.handler with
  | http handler =>
      simp only [callHttp_beside, beside_bind]
      rfl
  | shell handler =>
      simp only [callShell_beside, beside_bind]
      rfl

end Adapter

namespace Dispatch

open Adapter

variable (host : Host ω) (setting : Setting) (catalog : ω → Catalog)

theorem execute_beside (tool : Tool) (raw : Json) :
    execute (host.beside : Host (ω × τ)) setting tool raw =
      beside (execute host setting tool raw) := by
  unfold execute
  cases tool.prepare raw with
  | error error => rfl
  | ok arguments =>
      simp only [invoke_beside, beside_bind]
      congr 1
      funext outcome
      cases outcome <;> rfl

theorem run_beside (call : ToolCall) :
    run (host.beside : Host (ω × τ)) setting (fun state => catalog state.1) call =
      beside (run host setting catalog call) := by
  unfold run
  rw [beside_get_bind]
  congr 1
  funext state
  cases resolve (catalog state.1) call with
  | error fault => rfl
  | ok resolved => exact execute_beside host setting resolved.1 resolved.2

theorem answer_beside (call : ToolCall) :
    answer (host.beside : Host (ω × τ)) setting (fun state => catalog state.1) call =
      beside (answer host setting catalog call) := by
  unfold answer
  rw [run_beside, beside_bind]
  rfl

theorem fillSlots_beside (calls : List ToolCall) (places : List Nat)
    (slots : List (Option Message)) :
    fillSlots (host.beside : Host (ω × τ)) setting (fun state => catalog state.1) calls places
        slots =
      beside (fillSlots host setting catalog calls places slots) := by
  induction places generalizing slots with
  | nil => rfl
  | cons place rest ih =>
      rw [fillSlots, fillSlots]
      cases calls[place]? with
      | none => exact ih slots
      | some call =>
          simp only [answer_beside, beside_bind, ih]

theorem answers_beside (calls : List ToolCall) (completion : Completion calls.length) :
    answers (host.beside : Host (ω × τ)) setting (fun state => catalog state.1) calls completion =
      beside (answers host setting catalog calls completion) := by
  simp only [answers, fillSlots_beside, beside_bind]
  rfl

end Dispatch

/-! ## Records -/

/-- A request to the model and its answer, with the worlds on both sides of it. -/
structure Turn (ω : Type) where
  before : ω
  messages : List Message
  tools : List FunctionEntry
  answer : Except ClientFault Reply
  after : ω

def Backend.turn (backend : Backend ω) (messages : List Message) (tools : List FunctionEntry)
    (world : ω) : Turn ω :=
  let (answer, after) := (backend.complete messages tools).run world
  { before := world, messages, tools, answer, after }

/-- Surroundings that also write down each turn, behind those that are written down already. -/
def Surroundings.recorded (surroundings : Surroundings ω) :
    Surroundings (ω × List (Turn ω)) where
  backend :=
    { connect := beside surroundings.backend.connect
      complete := fun messages tools (world, turns) =>
        let turn := surroundings.backend.turn messages tools world
        (turn.answer, turn.after, turns ++ [turn]) }
  host := surroundings.host.beside
  catalog state := surroundings.catalog state.1
  completion state count := surroundings.completion state.1 count

/-- What calls come to in a world: their results, and the world after them. -/
def Surroundings.runCalls (surroundings : Surroundings ω) (setting : Adapter.Setting)
    (calls : List ToolCall) (world : ω) : List Message × ω :=
  let completion := surroundings.completion world calls.length
  (Dispatch.answers surroundings.host setting surroundings.catalog calls completion).run world

theorem Surroundings.runCalls_recorded (surroundings : Surroundings ω)
    (setting : Adapter.Setting) (calls : List ToolCall) (world : ω) (turns : List (Turn ω)) :
    surroundings.recorded.runCalls setting calls (world, turns) =
      let (results, after) := surroundings.runCalls setting calls world
      (results, after, turns) := by
  have hanswers := Dispatch.answers_beside (τ := List (Turn ω)) surroundings.host setting
    surroundings.catalog calls (surroundings.completion world calls.length)
  exact congrFun hanswers (world, turns)

namespace Client

/-- The turn that a client's next request amounts to. -/
def nextTurn (surroundings : Surroundings ω) (client : Client) (world : ω) : Turn ω :=
  surroundings.backend.turn client.history (surroundings.catalog world).functionEntries world

theorem run_request (surroundings : Surroundings ω) (client : Client) (world : ω) :
    (client.request surroundings).run world =
      ((client.nextTurn surroundings world).answer, (client.nextTurn surroundings world).after) :=
  rfl

/-- The client with calls and their results behind the conversation. -/
def told (client : Client) (content : Option String) (calls : List ToolCall)
    (results : List Message) : Client :=
  { client with
    state := .dispatchingTools
    history := client.history ++ .calls content calls :: results }

theorem run_dispatch (surroundings : Surroundings ω) (client : Client)
    (content : Option String) (calls : List ToolCall) (world : ω) :
    (client.dispatch surroundings content calls).run world =
      let (results, after) := surroundings.runCalls client.setting calls world
      (client.told content calls results, after) :=
  rfl

end Client

end Toolbench
