import Toolbench.Proofs.Conversation.Dispatch
import Toolbench.Proofs.Conversation.Session

/-!
# Well-formed histories

The history of a client is empty or starts with the system prompt, if there is one, and
goes on in blocks: a prompt of the user, groups of calls with their results, and at most
one answer.  Inside a prompt the last block is still open; every way out of the turns
leaves a history that a later operation can go on from.
-/

namespace Toolbench

namespace History

/-- Calls, at least one, and their results in the order of the calls. -/
inductive Group : List Message → Prop where
  | mk {content : Option String} {calls : List ToolCall} {results : List Message} :
      calls ≠ [] → List.Forall₂ Dispatch.Answers calls results →
      Group (.calls content calls :: results)

/-- A prompt and groups of calls behind it, which more groups or an answer may follow. -/
inductive OpenBlock : List Message → Prop where
  | prompt (text : String) : OpenBlock [.user text]
  | group {block group : List Message} : OpenBlock block → Group group → OpenBlock (block ++ group)

/-- A prompt, groups of calls behind it, and at most one answer. -/
inductive Block : List Message → Prop where
  | unanswered {block : List Message} : OpenBlock block → Block block
  | answered {block : List Message} (answer : String) :
      OpenBlock block → Block (block ++ [.assistant answer])

/-- The system prompt and blocks behind it. -/
inductive Started (systemPrompt : Option String) : List Message → Prop where
  | system : Started systemPrompt (systemPrompt.map Message.system).toList
  | block {history block : List Message} :
      Started systemPrompt history → Block block → Started systemPrompt (history ++ block)

/-- A history with an open block at its end. -/
def Open (systemPrompt : Option String) (history : List Message) : Prop :=
  ∃ before block, Started systemPrompt before ∧ OpenBlock block ∧ history = before ++ block

/-- A history between two operations: nothing, or the system prompt and at least one block. -/
def WellFormed (systemPrompt : Option String) (history : List Message) : Prop :=
  history = [] ∨
    ∃ before block, Started systemPrompt before ∧ Block block ∧ history = before ++ block

variable {systemPrompt : Option String} {history : List Message}

/-! ## What the messages of a turn do to a history -/

theorem Open.wellFormed (h : Open systemPrompt history) : WellFormed systemPrompt history := by
  obtain ⟨before, block, hbefore, hblock, rfl⟩ := h
  exact .inr ⟨before, block, hbefore, .unanswered hblock, rfl⟩

theorem Open.append_group {group : List Message} (h : Open systemPrompt history)
    (hgroup : Group group) : Open systemPrompt (history ++ group) := by
  obtain ⟨before, block, hbefore, hblock, rfl⟩ := h
  exact ⟨before, block ++ group, hbefore, .group hblock hgroup, List.append_assoc ..⟩

theorem Open.append_answer (h : Open systemPrompt history) (answer : String) :
    WellFormed systemPrompt (history ++ [.assistant answer]) := by
  obtain ⟨before, block, hbefore, hblock, rfl⟩ := h
  exact .inr ⟨before, _, hbefore, .answered answer hblock, List.append_assoc ..⟩

theorem OpenBlock.ne_nil {block : List Message} (h : OpenBlock block) : block ≠ [] := by
  induction h with
  | prompt text => simp
  | group _ _ ih => simp [ih]

theorem Block.ne_nil {block : List Message} (h : Block block) : block ≠ [] := by
  cases h with
  | unanswered hopen => exact hopen.ne_nil
  | answered answer hopen => simp

theorem WellFormed.ask {client : Client} (h : WellFormed client.systemPrompt client.history)
    (prompt : String) : Open client.systemPrompt (client.ask prompt).history := by
  rcases h with hempty | ⟨before, block, hbefore, hblock, hhistory⟩
  · refine ⟨_, _, .system, .prompt prompt, ?_⟩
    cases hsystem : client.systemPrompt <;> simp [Client.ask, hempty, hsystem]
  · refine ⟨before ++ block, _, .block hbefore hblock, .prompt prompt, ?_⟩
    cases hcases : client.history with
    | nil =>
        rw [hcases] at hhistory
        exact absurd (List.append_eq_nil_iff.mp hhistory.symm).2 hblock.ne_nil
    | cons first rest => simp [Client.ask, hcases, ← hhistory]

/-! ## Where system messages stand -/

theorem OpenBlock.no_system {block : List Message} (h : OpenBlock block) :
    ∀ message ∈ block, message.role ≠ .system := by
  induction h with
  | prompt text => simp [Message.user]
  | group hopen hgroup ih =>
      intro message hmessage
      rcases List.mem_append.mp hmessage with hleft | hright
      · exact ih message hleft
      · obtain ⟨_, hresults⟩ := hgroup
        rcases List.mem_cons.mp hright with rfl | hresult
        · simp [Message.calls]
        · simp [Dispatch.role_of_answers hresults message hresult]

theorem Block.no_system {block : List Message} (h : Block block) :
    ∀ message ∈ block, message.role ≠ .system := by
  cases h with
  | unanswered hopen => exact hopen.no_system
  | answered answer hopen =>
      intro message hmessage
      rcases List.mem_append.mp hmessage with hleft | hright
      · exact hopen.no_system message hleft
      · rw [List.mem_singleton.mp hright]
        simp [Message.assistant]

theorem Started.split (h : Started systemPrompt history) :
    ∃ blocks, history = (systemPrompt.map Message.system).toList ++ blocks ∧
      ∀ message ∈ blocks, message.role ≠ .system := by
  induction h with
  | system => exact ⟨[], by simp, by simp⟩
  | @block before block _ hblock ih =>
      obtain ⟨blocks, rfl, hblocks⟩ := ih
      refine ⟨blocks ++ block, List.append_assoc .., ?_⟩
      intro message hmessage
      rcases List.mem_append.mp hmessage with hleft | hright
      · exact hblocks message hleft
      · exact hblock.no_system message hright

/-- The system prompt is the only system message, and it comes first. -/
theorem WellFormed.role_system_iff {place : Nat} {message : Message}
    (h : WellFormed systemPrompt history) (hmessage : history[place]? = some message) :
    message.role = .system ↔ place = 0 ∧ systemPrompt.isSome := by
  rcases h with rfl | ⟨before, block, hbefore, hblock, rfl⟩
  · simp at hmessage
  · obtain ⟨blocks, rfl, hblocks⟩ := hbefore.split
    have hrest : ∀ message ∈ blocks ++ block, message.role ≠ .system := by
      simpa [or_imp, forall_and] using And.intro hblocks hblock.no_system
    rw [List.append_assoc] at hmessage
    cases systemPrompt with
    | none =>
        have hmem := List.mem_of_getElem? hmessage
        simp [hrest message hmem]
    | some prompt =>
        cases place with
        | zero =>
            obtain rfl : Message.system prompt = message := by simpa using hmessage
            simp [Message.system]
        | succ place =>
            have hmem : message ∈ blocks ++ block :=
              List.mem_of_getElem? (i := place) (by simpa using hmessage)
            simp [hrest message hmem]

end History

namespace Client

open History

variable {ω : Type} {systemPrompt : Option String}

/-! ## What an operation keeps -/

/-- A client between two operations. -/
structure Settled (systemPrompt : Option String) (client : Client) : Prop where
  prompt_eq : client.systemPrompt = systemPrompt
  wellFormed : WellFormed systemPrompt client.history

/-- A client that sends a prompt, with an open block at the end of its history. -/
structure Asking (systemPrompt : Option String) (client : Client) : Prop where
  prompt_eq : client.systemPrompt = systemPrompt
  isOpen : Open systemPrompt client.history

theorem Settled.ask {client : Client} (h : Settled systemPrompt client) (prompt : String) :
    Asking systemPrompt (client.ask prompt) := by
  obtain ⟨rfl, hwf⟩ := h
  exact ⟨rfl, hwf.ask prompt⟩

theorem Asking.settled {client : Client} (h : Asking systemPrompt client) :
    Settled systemPrompt client :=
  ⟨h.prompt_eq, h.isOpen.wellFormed⟩

theorem Asking.finish {client : Client} (h : Asking systemPrompt client) (answer : String)
    (turns : Nat) : Settled systemPrompt (client.finish answer turns).2 :=
  ⟨h.prompt_eq, h.isOpen.append_answer answer⟩

theorem Asking.dispatch (surroundings : Surroundings ω) {client : Client}
    {calls : List ToolCall} (h : Asking systemPrompt client) (content : Option String)
    (hcalls : calls ≠ []) (world : ω) :
    Asking systemPrompt ((client.dispatch surroundings content calls).run world).1 := by
  have hresults := Dispatch.answers_forall₂ surroundings.host client.setting
    surroundings.catalog calls (surroundings.completion world calls.length) world
  exact ⟨h.prompt_eq, h.isOpen.append_group (.mk hcalls hresults)⟩

theorem Asking.inState {client : Client} (h : Asking systemPrompt client) (state : ClientState) :
    Asking systemPrompt { client with state } :=
  ⟨h.prompt_eq, h.isOpen⟩

/-- Every way out of the turns leaves a well-formed history. -/
theorem Asking.takeTurns (surroundings : Surroundings ω) {client : Client} (left : Nat)
    (world : ω) (h : Asking systemPrompt client) :
    Settled systemPrompt ((client.takeTurns surroundings left).run world).1.2 := by
  induction left generalizing client world with
  | zero => exact (h.inState .failed).settled
  | succ left ih =>
      have hwaiting := h.inState .awaitingModel
      rw [Client.takeTurns, StateT.run_bind]
      generalize hreply : StateT.run (request surroundings _) world = result
      obtain ⟨reply, world⟩ := result
      match reply with
      | .error fault => exact (hwaiting.inState .failed).settled
      | .ok (.final answer) => exact hwaiting.finish answer _
      | .ok (.calls content []) => exact hwaiting.finish _ _
      | .ok (.calls content (call :: calls)) =>
          have hdispatched := hwaiting.dispatch surroundings content (List.cons_ne_nil call calls) world
          exact ih _ hdispatched

theorem settled_fresh (maxTurns : Nat) (systemPrompt : Option String)
    (setting : Adapter.Setting) : Settled systemPrompt (fresh maxTurns systemPrompt setting) :=
  ⟨rfl, .inl rfl⟩

/-- One operation keeps a history well formed, whatever the state that it starts in. -/
theorem Settled.perform (surroundings : Surroundings ω) {client : Client}
    (h : Settled systemPrompt client) (operation : Operation ω) (world : ω) :
    Settled systemPrompt ((client.perform surroundings operation).run world).1 := by
  cases operation with
  | connect =>
      rw [Client.perform, Client.connect, StateT.run_bind, StateT.run_bind]
      generalize StateT.run surroundings.backend.connect world = result
      obtain ⟨answer, world⟩ := result
      cases answer with
      | ok _ => exact ⟨h.prompt_eq, h.wellFormed⟩
      | error fault => exact ⟨h.prompt_eq, h.wellFormed⟩
  | send prompt =>
      rw [Client.perform, Client.send, StateT.run_bind]
      by_cases hstate : client.state = .disconnected
      · rw [if_pos hstate]
        exact h
      · rw [if_neg hstate]
        exact (h.ask prompt).takeTurns surroundings client.maxTurns world
  | reset => exact ⟨h.prompt_eq, .inl rfl⟩
  | change step => exact h

theorem Settled.performAll (surroundings : Surroundings ω) {client : Client}
    (h : Settled systemPrompt client) (operations : List (Operation ω)) (world : ω) :
    Settled systemPrompt ((client.performAll surroundings operations).run world).1 := by
  induction operations generalizing client world with
  | nil => exact h
  | cons operation rest ih =>
      rw [Client.performAll, StateT.run_bind]
      exact ih (h.perform surroundings operation world) _

/--
After any session of a new client its history is well formed, and its only system message
is the system prompt in front.
-/
theorem performAll_wellFormed (surroundings : Surroundings ω) (operations : List (Operation ω))
    (maxTurns : Nat) (systemPrompt : Option String) (setting : Adapter.Setting) (world : ω) :
    let client := fresh maxTurns systemPrompt setting
    let history := ((client.performAll surroundings operations).run world).1.history
    WellFormed systemPrompt history ∧
      ∀ place message, history[place]? = some message →
        (message.role = .system ↔ place = 0 ∧ systemPrompt.isSome) := by
  have hfresh := settled_fresh maxTurns systemPrompt setting
  have h := hfresh.performAll surroundings operations world
  exact ⟨h.wellFormed, fun place message hmessage => h.wellFormed.role_system_iff hmessage⟩

end Client

end Toolbench
