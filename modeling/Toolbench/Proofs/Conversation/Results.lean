import Toolbench.Proofs.Conversation.Dispatch
import Toolbench.Proofs.Conversation.Recording
import Toolbench.Proofs.Json.Fitting

/-!
# What the model is told

How a call ends is decided in a fixed order, and a tool is invoked only where everything before
that has gone well. What the model is told is an object that says by its only key whether the
call failed. The calls of a reply are completed one after the other, each in the world that the
ones before it have left, and nothing is invoked but what is invoked for one of them.
-/

namespace Toolbench

namespace Dispatch

open Adapter

variable {ω : Type}

/-! ## Invokers -/

/-- What runs a tool on prepared arguments. -/
abbrev Invoker (ω : Type) : Type :=
  Tool → Arguments → StateM ω (Except Adapter.Fault Output)

/-- The tools that were invoked, with their arguments. -/
abbrev Invocations : Type :=
  List (Tool × Arguments)

/-- The invoker that also keeps a record of the invocations. -/
def Invoker.recorded (invoker : Invoker ω) : Invoker (ω × Invocations) :=
  fun tool arguments => do
    modify fun state => (state.1, state.2 ++ [(tool, arguments)])
    beside (invoker tool arguments)

def executeBy (invoker : Invoker ω) (tool : Tool) (raw : Json) :
    StateM ω (Except CallFault Output) := do
  match tool.prepare raw with
  | .error error => return .error (.validation error)
  | .ok arguments =>
      match ← invoker tool arguments with
      | .ok output => return .ok output
      | .error fault => return .error (.adapter fault)

def runBy (invoker : Invoker ω) (catalog : ω → Catalog) (call : ToolCall) :
    StateM ω (Except CallFault Output) := do
  match resolve (catalog (← get)) call with
  | .error fault => return .error fault
  | .ok (tool, raw) => executeBy invoker tool raw

def answerBy (invoker : Invoker ω) (catalog : ω → Catalog) (call : ToolCall) :
    StateM ω Message := do
  return .toolResult call.id (content (← runBy invoker catalog call))

def fillSlotsBy (invoker : Invoker ω) (catalog : ω → Catalog) (calls : List ToolCall) :
    List Nat → List (Option Message) → StateM ω (List (Option Message))
  | [], slots => return slots
  | place :: rest, slots =>
      match calls[place]? with
      | some call => do
          let message ← answerBy invoker catalog call
          fillSlotsBy invoker catalog calls rest (slots.set place (some message))
      | none => fillSlotsBy invoker catalog calls rest slots

def answersBy (invoker : Invoker ω) (catalog : ω → Catalog) (calls : List ToolCall)
    (completion : Completion calls.length) : StateM ω (List Message) := do
  let empty := List.replicate calls.length none
  let slots ← fillSlotsBy invoker catalog calls completion.places empty
  return slots.reduceOption

theorem answer_eq_answerBy (host : Host ω) (setting : Setting) (catalog : ω → Catalog)
    (call : ToolCall) :
    answer host setting catalog call = answerBy (invoke host setting) catalog call :=
  rfl

theorem fillSlots_eq_fillSlotsBy (host : Host ω) (setting : Setting) (catalog : ω → Catalog)
    (calls : List ToolCall) (places : List Nat) (slots : List (Option Message)) :
    fillSlots host setting catalog calls places slots =
      fillSlotsBy (invoke host setting) catalog calls places slots := by
  induction places generalizing slots with
  | nil => rfl
  | cons place rest ih =>
      rw [fillSlots, fillSlotsBy]
      cases calls[place]? with
      | none => exact ih slots
      | some call => simp only [answer_eq_answerBy, ih]

theorem answers_eq_answersBy (host : Host ω) (setting : Setting) (catalog : ω → Catalog)
    (calls : List ToolCall) (completion : Completion calls.length) :
    answers host setting catalog calls completion =
      answersBy (invoke host setting) catalog calls completion := by
  rw [answers, answersBy, fillSlots_eq_fillSlotsBy]

theorem recorded_run (invoker : Invoker ω) (tool : Tool) (arguments : Arguments) (world : ω)
    (earlier : Invocations) :
    (invoker.recorded tool arguments).run (world, earlier) =
      (((invoker tool arguments).run world).1, ((invoker tool arguments).run world).2,
        earlier ++ [(tool, arguments)]) :=
  rfl

/-- What the outcome of an invocation makes of a call. -/
def outcome : Except Adapter.Fault Output → Except CallFault Output
  | .ok output => .ok output
  | .error fault => .error (.adapter fault)

theorem runBy_run (invoker : Invoker ω) (catalog : ω → Catalog) (call : ToolCall) (world : ω) :
    (runBy invoker catalog call).run world =
      match resolve (catalog world) call with
      | .error fault => (.error fault, world)
      | .ok (tool, raw) => (executeBy invoker tool raw).run world := by
  change (match resolve (catalog world) call with
    | .error fault => (pure (.error fault) : StateM ω (Except CallFault Output))
    | .ok (tool, raw) => executeBy invoker tool raw).run world = _
  cases resolve (catalog world) call <;> rfl

theorem executeBy_run (invoker : Invoker ω) (tool : Tool) (raw : Json) (world : ω) :
    (executeBy invoker tool raw).run world =
      match tool.prepare raw with
      | .error error => (.error (.validation error), world)
      | .ok arguments =>
          (outcome ((invoker tool arguments).run world).1,
            ((invoker tool arguments).run world).2) := by
  unfold executeBy
  cases tool.prepare raw with
  | error error => rfl
  | ok arguments =>
      change (match ((invoker tool arguments).run world).1 with
        | .ok output => (pure (.ok output) : StateM ω (Except CallFault Output))
        | .error fault => pure (.error (.adapter fault))).run
          ((invoker tool arguments).run world).2 =
        (outcome ((invoker tool arguments).run world).1, ((invoker tool arguments).run world).2)
      cases ((invoker tool arguments).run world).1 <;> rfl

theorem answerBy_run (invoker : Invoker ω) (catalog : ω → Catalog) (call : ToolCall) (world : ω) :
    (answerBy invoker catalog call).run world =
      let (result, after) := (runBy invoker catalog call).run world
      (.toolResult call.id (content result), after) :=
  rfl

theorem answersBy_run (invoker : Invoker ω) (catalog : ω → Catalog) (calls : List ToolCall)
    (completion : Completion calls.length) (world : ω) :
    (answersBy invoker catalog calls completion).run world =
      let (slots, after) := (fillSlotsBy invoker catalog calls completion.places
        (List.replicate calls.length none)).run world
      (slots.reduceOption, after) :=
  rfl

/-! ## How a call ends -/

/-- How a call ends: it fails for some reason, or a tool has answered. -/
inductive Verdict where
  | failed (kind message : String)
  | succeeded (output : Output)

/-- The arguments that a text stands for. -/
inductive Spells (text : String) : Json → Prop
  | blank (hblank : Text.isBlankText text) : Spells text (.object [])
  | json {value : Json} (hblank : Text.isBlankText text = false)
      (hparse : Json.parse text = .ok value) : Spells text value

/-- How a call ends in a world, in which world, and what was invoked for it. The conditions of a
case exclude the cases before it. -/
inductive Decides (invoker : Invoker ω) (tools : Catalog) (call : ToolCall) (world : ω) :
    Verdict → ω → Invocations → Prop
  | malformed {reason : String} (hmalformed : call.malformed = some reason) :
      Decides invoker tools call world
        (.failed "invalid_arguments" (CallFault.unparsed call.name reason)) world []
  | unknown (hwell : call.malformed = none) (hunknown : tools.find? call.name = none) :
      Decides invoker tools call world
        (.failed "unknown_tool" ("tool '" ++ call.name ++ "' not found")) world []
  | unreadable {tool : Tool} {error : Json.SyntaxError} (hwell : call.malformed = none)
      (htool : tools.find? call.name = some tool)
      (hblank : Text.isBlankText call.arguments = false)
      (hparse : Json.parse call.arguments = .error error) :
      Decides invoker tools call world
        (.failed "invalid_arguments" (CallFault.unparsed call.name error.message)) world []
  | refused {tool : Tool} {raw : Json} {error : ValidationError} (hwell : call.malformed = none)
      (htool : tools.find? call.name = some tool) (hraw : Spells call.arguments raw)
      (hprepare : tool.prepare raw = .error error) :
      Decides invoker tools call world (.failed "validation_error" error.message) world []
  | faulted {tool : Tool} {raw : Json} {arguments : Arguments} {fault : Adapter.Fault} {after : ω}
      (hwell : call.malformed = none) (htool : tools.find? call.name = some tool)
      (hraw : Spells call.arguments raw) (hprepare : tool.prepare raw = .ok arguments)
      (hinvoke : (invoker tool arguments).run world = (.error fault, after)) :
      Decides invoker tools call world (.failed "adapter_invocation_error" fault.message) after
        [(tool, arguments)]
  | succeeded {tool : Tool} {raw : Json} {arguments : Arguments} {output : Output} {after : ω}
      (hwell : call.malformed = none) (htool : tools.find? call.name = some tool)
      (hraw : Spells call.arguments raw) (hprepare : tool.prepare raw = .ok arguments)
      (hinvoke : (invoker tool arguments).run world = (.ok output, after)) :
      Decides invoker tools call world (.succeeded output) after [(tool, arguments)]

/-- The result of a call that ends so. -/
def verdictOf : Except CallFault Output → Verdict
  | .ok output => .succeeded output
  | .error fault => .failed fault.kindName fault.message

theorem Spells.parseArguments_eq {text : String} {value : Json} (hspells : Spells text value)
    (tool : String) : parseArguments tool text = .ok value := by
  cases hspells with
  | blank hblank => simp [parseArguments, hblank]
  | json hblank hparse => simp [parseArguments, hblank, hparse]

theorem resolve_eq_ok {tools : Catalog} {call : ToolCall} {tool : Tool} {raw : Json}
    (hwell : call.malformed = none) (htool : tools.find? call.name = some tool)
    (hraw : Spells call.arguments raw) : resolve tools call = .ok (tool, raw) := by
  simp [resolve, hwell, htool, hraw.parseArguments_eq, Except.map]

/-- A call that ends so has the result that it ends with, by one run that keeps a record. -/
theorem Decides.run {invoker : Invoker ω} (catalog : ω → Catalog) {call : ToolCall}
    {world after : ω} {verdict : Verdict} {invocations : Invocations}
    (hdecides : Decides invoker (catalog world) call world verdict after invocations) :
    ∃ result, verdict = verdictOf result ∧
      (runBy invoker catalog call).run world = (result, after) ∧
      ∀ earlier, (runBy invoker.recorded (fun state => catalog state.1) call).run (world, earlier) =
        (result, after, earlier ++ invocations) := by
  simp only [runBy_run]
  cases hdecides with
  | @malformed reason hmalformed =>
      have hresolve : resolve (catalog world) call = .error (.malformed call.name reason) := by
        simp [resolve, hmalformed]
      exact ⟨_, rfl, by rw [hresolve], fun earlier => by rw [hresolve, List.append_nil]⟩
  | unknown hwell hunknown =>
      have hresolve : resolve (catalog world) call = .error (.unknownTool call.name) := by
        simp [resolve, hwell, hunknown]
      exact ⟨_, rfl, by rw [hresolve], fun earlier => by rw [hresolve, List.append_nil]⟩
  | @unreadable tool error hwell htool hblank hparse =>
      have hresolve : resolve (catalog world) call = .error (.unreadable call.name error) := by
        simp [resolve, hwell, htool, parseArguments, hblank, hparse, Except.map]
      exact ⟨_, rfl, by rw [hresolve], fun earlier => by rw [hresolve, List.append_nil]⟩
  | refused hwell htool hraw hprepare =>
      rw [resolve_eq_ok hwell htool hraw]
      simp only [executeBy_run, hprepare, List.append_nil]
      exact ⟨_, rfl, rfl, fun earlier => rfl⟩
  | faulted hwell htool hraw hprepare hinvoke =>
      rw [resolve_eq_ok hwell htool hraw]
      simp only [executeBy_run, hprepare, recorded_run, hinvoke]
      exact ⟨_, rfl, rfl, fun earlier => rfl⟩
  | succeeded hwell htool hraw hprepare hinvoke =>
      rw [resolve_eq_ok hwell htool hraw]
      simp only [executeBy_run, hprepare, recorded_run, hinvoke]
      exact ⟨_, rfl, rfl, fun earlier => rfl⟩

/-- A call ends in one way. -/
theorem Decides.unique {invoker : Invoker ω} {tools : Catalog} {call : ToolCall}
    {world after otherAfter : ω} {verdict other : Verdict} {invocations others : Invocations}
    (hdecides : Decides invoker tools call world verdict after invocations)
    (hother : Decides invoker tools call world other otherAfter others) :
    verdict = other ∧ after = otherAfter ∧ invocations = others := by
  obtain ⟨result, rfl, -, hrun⟩ := Decides.run (fun _ => tools) hdecides
  obtain ⟨found, rfl, -, hfound⟩ := Decides.run (fun _ => tools) hother
  have hsame := (hrun []).symm.trans (hfound [])
  cases hsame
  exact ⟨rfl, rfl, rfl⟩

/-- Every call ends in one of these ways. -/
theorem exists_decides (invoker : Invoker ω) (tools : Catalog) (call : ToolCall) (world : ω) :
    ∃ verdict after invocations, Decides invoker tools call world verdict after invocations := by
  cases hmalformed : call.malformed with
  | some reason => exact ⟨_, _, _, .malformed hmalformed⟩
  | none =>
      cases htool : tools.find? call.name with
      | none => exact ⟨_, _, _, .unknown hmalformed htool⟩
      | some tool =>
          have hraw : ∀ raw, Spells call.arguments raw →
              ∃ verdict after invocations,
                Decides invoker tools call world verdict after invocations := by
            intro raw hraw
            cases hprepare : tool.prepare raw with
            | error error => exact ⟨_, _, _, .refused hmalformed htool hraw hprepare⟩
            | ok arguments =>
                rcases hinvoke : (invoker tool arguments).run world with ⟨result, after⟩
                cases result with
                | error fault => exact ⟨_, _, _, .faulted hmalformed htool hraw hprepare hinvoke⟩
                | ok output => exact ⟨_, _, _, .succeeded hmalformed htool hraw hprepare hinvoke⟩
          cases hblank : Text.isBlankText call.arguments with
          | true => exact hraw _ (.blank hblank)
          | false =>
              cases hparse : Json.parse call.arguments with
              | error error => exact ⟨_, _, _, .unreadable hmalformed htool hblank hparse⟩
              | ok raw => exact hraw raw (.json hblank hparse)

/-! ## What the content says -/

/-- An object with the single key `error`, which holds a kind and a message. -/
def errorObject (kind message : String) : Json :=
  .object [("error", .object [("kind", .string kind), ("message", .string message)])]

theorem ofList_kind_message (kind message : Json) :
    Json.Members.ofList [("kind", kind), ("message", message)] =
      [("kind", kind), ("message", message)] := by
  apply Json.Members.ofList_eq_self
  have hlt : "kind" < "message" := by
    decide
  exact List.pairwise_pair.mpr hlt

theorem toJson_eq_errorObject (fault : CallFault) :
    fault.toJson = errorObject fault.kindName fault.message := by
  rw [CallFault.toJson, Json.ofMembers, Json.ofMembers, ofList_kind_message]
  rfl

theorem ordered_errorObject (kind message : String) :
    (errorObject kind message).ordered = errorObject kind message := by
  change Json.object [("error", .object (Json.Members.ofList
    [("kind", .string kind), ("message", .string message)]))] = _
  rw [ofList_kind_message]
  rfl

theorem parse_errorObject (kind message : String) :
    Json.parse (errorObject kind message).write = .ok (errorObject kind message) := by
  have hdepth : (errorObject kind message).nesting < Json.maxDepth := by
    change 2 < 128
    decide
  have hparse : Json.parse (errorObject kind message).write =
      .ok (errorObject kind message).ordered :=
    Json.parse_write_of_floats_eq_nil rfl hdepth
  rw [hparse, ordered_errorObject]

theorem floatsOfMembers_strings (headers : Headers) :
    Json.floatsOfMembers (headers.map fun (name, value) => (name, .string value)) = [] := by
  rw [Json.floatsOfMembers_eq_nil_iff, List.forall_mem_map]
  exact fun header _ => rfl

theorem nestingMembers_strings (headers : Headers) :
    Json.nestingMembers (headers.map fun (name, value) => (name, .string value)) = 0 := by
  rw [← Nat.lt_one_iff, Json.nestingMembers_lt_iff _ Nat.zero_lt_one, List.forall_mem_map]
  exact fun header _ => Nat.zero_lt_one

theorem floats_output (output : Output) : output.toJson.floats = [] := by
  cases output <;>
    simp [Output.toJson, Json.floats, Json.floatsOfMembers, Json.ofNat, floatsOfMembers_strings]

theorem nesting_output (output : Output) : output.toJson.nesting < Json.maxDepth := by
  cases output <;>
    simp [Output.toJson, Json.nesting, Json.nestingMembers, Json.ofNat, nestingMembers_strings,
      Json.maxDepth]

/-- The text of an output is read as the output, an object without the key `error`. -/
theorem parse_output (output : Output) :
    Json.parse output.toJson.write = .ok output.toJson.ordered ∧
      (∃ members, output.toJson.ordered = .object members) ∧
      output.toJson.ordered.get? "error" = none := by
  have hparse := Json.parse_write_of_floats_eq_nil (floats_output output) (nesting_output output)
  refine ⟨hparse, ?_⟩
  cases output with
  | http output =>
      refine ⟨⟨_, rfl⟩, ?_⟩
      simp [Output.toJson, Json.ordered, Json.get?, Json.Members.find?_ofList,
        Json.orderedMembers, Json.Members.find?]
  | shell output =>
      refine ⟨⟨_, rfl⟩, ?_⟩
      simp [Output.toJson, Json.ordered, Json.get?, Json.Members.find?_ofList,
        Json.orderedMembers, Json.Members.find?]

/-- What a text says of how a call has ended. -/
structure Tells (text : String) (verdict : Verdict) : Prop where
  object : ∃ members, Json.parse text = .ok (.object members)
  failure : ∀ kind message,
    Json.parse text = .ok (errorObject kind message) ↔ verdict = .failed kind message
  success : ∀ output, verdict = .succeeded output →
    Json.parse text = .ok output.toJson.ordered ∧ output.toJson.ordered.get? "error" = none

theorem tells_content (result : Except CallFault Output) :
    Tells (content result) (verdictOf result) := by
  cases result with
  | error fault =>
      have hparse : Json.parse (content (.error fault)) =
          .ok (errorObject fault.kindName fault.message) := by
        rw [content, CallFault.payload, toJson_eq_errorObject, parse_errorObject]
      refine ⟨⟨_, hparse⟩, fun kind message => ?_, fun output hsucceeded => ?_⟩
      · rw [hparse]
        simp [errorObject, verdictOf]
      · cases hsucceeded
  | ok output =>
      obtain ⟨hparse, ⟨members, hmembers⟩, hnone⟩ := parse_output output
      refine ⟨⟨members, ?_⟩, fun kind message => ?_, fun other hother => ?_⟩
      · rw [content, hparse, hmembers]
      · constructor
        · intro herror
          rw [content, hparse] at herror
          rw [Except.ok.inj herror] at hnone
          cases hnone
        · intro hfailed
          cases hfailed
      · cases hother
        exact ⟨hparse, hnone⟩

/-! ## Results -/

/-- The message that a call gets in a world, the world after that, and what was invoked. The
content of the message tells how the call has ended, and the run that keeps a record gives it
together with what was invoked. -/
def Settles (invoker : Invoker ω) (catalog : ω → Catalog) (call : ToolCall) (world : ω)
    (message : Message) (after : ω) (invocations : Invocations) : Prop :=
  ∃ text verdict, message = .toolResult call.id text ∧
    Decides invoker (catalog world) call world verdict after invocations ∧ Tells text verdict ∧
    ∀ earlier, (answerBy invoker.recorded (fun state => catalog state.1) call).run
      (world, earlier) = (message, after, earlier ++ invocations)

theorem exists_settles (invoker : Invoker ω) (catalog : ω → Catalog) (call : ToolCall)
    (world : ω) :
    ∃ message after invocations,
      (answerBy invoker catalog call).run world = (message, after) ∧
      Settles invoker catalog call world message after invocations := by
  obtain ⟨verdict, after, invocations, hdecides⟩ :=
    exists_decides invoker (catalog world) call world
  obtain ⟨result, rfl, hrun, hrecorded⟩ := hdecides.run catalog
  refine ⟨.toolResult call.id (content result), after, invocations, ?_, content result, _, rfl,
    hdecides, tells_content result, fun earlier => ?_⟩
  · rw [answerBy_run, hrun]
  · rw [answerBy_run, hrecorded]

/-- For a call a tool is invoked once or not at all. -/
theorem Decides.length_le {invoker : Invoker ω} {tools : Catalog} {call : ToolCall}
    {world after : ω} {verdict : Verdict} {invocations : Invocations}
    (h : Decides invoker tools call world verdict after invocations) : invocations.length ≤ 1 := by
  cases h <;> simp

/-! ## Replies -/

/-- Calls completed one after the other at the given places, from one world to another. Each is
settled in the world that those before it have left, with the message that stands at its place,
and what is invoked is what is invoked for each of them, in that order. -/
inductive Completes (invoker : Invoker ω) (catalog : ω → Catalog) (calls : List ToolCall)
    (told : Nat → Option Message) : List Nat → ω → ω → Invocations → Prop
  | done (world : ω) : Completes invoker catalog calls told [] world world []
  | next {place : Nat} {rest : List Nat} {call : ToolCall} {message : Message}
      {world between after : ω} {invocations later : Invocations}
      (hcall : calls[place]? = some call) (htold : told place = some message)
      (hsettles : Settles invoker catalog call world message between invocations)
      (hrest : Completes invoker catalog calls told rest between after later) :
      Completes invoker catalog calls told (place :: rest) world after (invocations ++ later)

section Completes

variable {invoker : Invoker ω} {catalog : ω → Catalog} {calls : List ToolCall}
  {told : Nat → Option Message} {places : List Nat} {world after : ω} {invocations : Invocations}

theorem Completes.isSome_told (h : Completes invoker catalog calls told places world after
    invocations) : ∀ place ∈ places, (told place).isSome := by
  induction h with
  | done => simp
  | next _ htold _ _ ih => exact List.forall_mem_cons.mpr ⟨by rw [htold, Option.isSome_some], ih⟩

theorem Completes.length_le (h : Completes invoker catalog calls told places world after
    invocations) : invocations.length ≤ places.length := by
  induction h with
  | done => simp
  | next _ _ hsettles _ ih =>
      obtain ⟨_, _, -, hdecides, -, -⟩ := hsettles
      have hcall := hdecides.length_le
      rw [List.length_append, List.length_cons]
      omega

theorem fillSlotsBy_cons {place : Nat} {call : ToolCall} (hcall : calls[place]? = some call)
    (rest : List Nat) (slots : List (Option Message)) :
    (fillSlotsBy invoker catalog calls (place :: rest) slots).run world =
      let (message, between) := (answerBy invoker catalog call).run world
      (fillSlotsBy invoker catalog calls rest (slots.set place (some message))).run between := by
  rw [fillSlotsBy, hcall]
  rfl

/-- To complete calls fills the slots at their places and no others, in one chain of worlds. -/
theorem exists_completes (invoker : Invoker ω) (catalog : ω → Catalog)
    {slots : List (Option Message)} (hlength : slots.length = calls.length)
    (hdistinct : places.Nodup) (hplaces : ∀ place ∈ places, place < calls.length) (world : ω) :
    ∃ filled after invocations,
      (fillSlotsBy invoker catalog calls places slots).run world = (filled, after) ∧
      (∀ earlier, (fillSlotsBy invoker.recorded (fun state => catalog state.1) calls places
        slots).run (world, earlier) = (filled, after, earlier ++ invocations)) ∧
      Completes invoker catalog calls (fun place => filled[place]?.join) places world after
        invocations ∧
      filled.length = slots.length ∧ ∀ place ∉ places, filled[place]? = slots[place]? := by
  induction places generalizing slots world with
  | nil =>
      refine ⟨slots, world, [], rfl, fun earlier => ?_, .done world, rfl, fun _ _ => rfl⟩
      rw [List.append_nil]
      rfl
  | cons place rest ih =>
      obtain ⟨hfirst, hothers⟩ := List.nodup_cons.mp hdistinct
      obtain ⟨hplace, hbelow⟩ := List.forall_mem_cons.mp hplaces
      have hcall : calls[place]? = some calls[place] := List.getElem?_eq_getElem hplace
      obtain ⟨message, between, invocations, hanswer, hsettles⟩ :=
        exists_settles invoker catalog calls[place] world
      obtain ⟨filled, after, later, hrun, hrecorded, hcompletes, hfilled, hkept⟩ :=
        ih ((List.length_set (a := some message)).trans hlength) hothers hbelow between
      have htold : filled[place]? = some (some message) := by
        rw [hkept place hfirst, List.getElem?_set_self (hlength ▸ hplace)]
      refine ⟨filled, after, invocations ++ later, ?_, fun earlier => ?_,
        .next hcall (by rw [htold]; rfl) hsettles hcompletes, ?_, fun other hother => ?_⟩
      · rw [fillSlotsBy_cons hcall, hanswer]
        exact hrun
      · obtain ⟨_, _, -, -, -, hanswered⟩ := hsettles
        rw [fillSlotsBy_cons hcall, hanswered, ← List.append_assoc]
        exact hrecorded (earlier ++ invocations)
      · rw [hfilled, List.length_set]
      · obtain ⟨hne, hrest⟩ := not_or.mp (mt List.mem_cons.mpr hother)
        rw [hkept other hrest, List.getElem?_set_ne (Ne.symm hne)]

theorem getElem?_reduceOption {slots : List (Option Message)}
    (hall : ∀ slot ∈ slots, slot.isSome) (place : Nat) :
    slots.reduceOption[place]? = slots[place]?.join := by
  induction slots generalizing place with
  | nil => rfl
  | cons slot slots ih =>
      obtain ⟨hslot, hslots⟩ := List.forall_mem_cons.mp hall
      obtain ⟨message, rfl⟩ := Option.isSome_iff_exists.mp hslot
      rw [List.reduceOption_cons_of_some]
      cases place with
      | zero => rfl
      | succ place => exact ih hslots place

/-- The calls of a reply are completed in one chain of worlds, and the record of the whole reply
is what is invoked for each of them. -/
theorem answersBy_completes (invoker : Invoker ω) (catalog : ω → Catalog) (calls : List ToolCall)
    (completion : Completion calls.length) (world : ω) :
    ∃ messages after invocations,
      (answersBy invoker catalog calls completion).run world = (messages, after) ∧
      (answersBy invoker.recorded (fun state => catalog state.1) calls completion).run
        (world, []) = (messages, after, invocations) ∧
      Completes invoker catalog calls (fun place => messages[place]?) completion.places world after
        invocations := by
  have hmem : ∀ place, place ∈ completion.places ↔ place < calls.length := by
    intro place
    rw [completion.everyPlace.mem_iff, List.mem_range]
  have hdistinct : completion.places.Nodup :=
    completion.everyPlace.nodup_iff.mpr List.nodup_range
  have hempty : (List.replicate calls.length (none : Option Message)).length = calls.length :=
    List.length_replicate
  obtain ⟨filled, after, invocations, hrun, hrecorded, hcompletes, hlength, -⟩ :=
    exists_completes invoker catalog hempty hdistinct (fun place => (hmem place).mp) world
  have hall : ∀ slot ∈ filled, slot.isSome := by
    intro slot hslot
    obtain ⟨place, hplace, rfl⟩ := List.mem_iff_getElem.mp hslot
    have htold := hcompletes.isSome_told place ((hmem place).mpr (by omega))
    rwa [List.getElem?_eq_getElem hplace] at htold
  refine ⟨filled.reduceOption, after, invocations, ?_, ?_, ?_⟩
  · rw [answersBy_run, hrun]
  · rw [answersBy_run, hrecorded, List.nil_append]
  · simp only [getElem?_reduceOption hall]
    exact hcompletes

end Completes

/-- Every call gets one message, in whatever order the calls are completed: the message has the
identifier of the call, and its content is an object that tells how the call has ended. How a call
ends is decided in one order, and the adapter is invoked once or not at all. The calls of a reply
are completed one after the other, and nothing is invoked but what is invoked for each. -/
theorem answers_settled (host : Host ω) (setting : Setting) (catalog : ω → Catalog) :
    (∀ call world, ∃ invocations, Settles (invoke host setting) catalog call world
      ((answer host setting catalog call).run world).1
      ((answer host setting catalog call).run world).2 invocations ∧ invocations.length ≤ 1) ∧
    (∀ (calls : List ToolCall) (completion : Completion calls.length) (world : ω),
      ∃ messages after invocations,
        (answers host setting catalog calls completion).run world = (messages, after) ∧
        (answersBy (Invoker.recorded (invoke host setting)) (fun state => catalog state.1) calls
          completion).run (world, []) = (messages, after, invocations) ∧
        Completes (invoke host setting) catalog calls (fun place => messages[place]?)
          completion.places world after invocations ∧
        invocations.length ≤ calls.length ∧
        List.Forall₂ (fun call message => ∃ before after invocations,
          Settles (invoke host setting) catalog call before message after invocations)
          calls messages) ∧
    ∀ call world verdict after invocations other otherAfter others,
      Decides (invoke host setting) (catalog world) call world verdict after invocations →
      Decides (invoke host setting) (catalog world) call world other otherAfter others →
        verdict = other ∧ after = otherAfter ∧ invocations = others := by
  have hanswer : ∀ call world, ∃ invocations, Settles (invoke host setting) catalog call world
      ((answer host setting catalog call).run world).1
      ((answer host setting catalog call).run world).2 invocations := by
    intro call world
    obtain ⟨message, after, invocations, hrun, hsettles⟩ :=
      exists_settles (invoke host setting) catalog call world
    rw [answer_eq_answerBy, hrun]
    exact ⟨invocations, hsettles⟩
  refine ⟨?_, ?_, ?_⟩
  · intro call world
    obtain ⟨invocations, hsettles⟩ := hanswer call world
    obtain ⟨_, _, -, hdecides, -, -⟩ := id hsettles
    exact ⟨invocations, hsettles, hdecides.length_le⟩
  · intro calls completion world
    obtain ⟨messages, after, invocations, hrun, hrecorded, hcompletes⟩ :=
      answersBy_completes (invoke host setting) catalog calls completion world
    rw [← answers_eq_answersBy] at hrun
    have hlength := hcompletes.length_le
    rw [completion.everyPlace.length_eq, List.length_range] at hlength
    have hmessages : List.Forall₂ (fun call message => ∃ before after invocations,
        Settles (invoke host setting) catalog call before message after invocations) calls
        ((answers host setting catalog calls completion).run world).1 :=
      forall₂_answers host setting catalog
        (fun call before => ⟨before, _, hanswer call before⟩) calls completion world
    rw [hrun] at hmessages
    exact ⟨messages, after, invocations, hrun, hrecorded, hcompletes, hlength, hmessages⟩
  · intro call world verdict after invocations other otherAfter others hdecides hother
    exact hdecides.unique hother

end Dispatch

end Toolbench
