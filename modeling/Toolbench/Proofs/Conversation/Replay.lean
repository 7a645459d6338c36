import Toolbench.Proofs.Conversation.Session
import Toolbench.Proofs.Conversation.Turns

/-!
# Requests replay the conversation

The first request of a prompt holds the history and the prompt, and each further one holds what
the one before it held, with the calls of its reply and their results behind.  The history ends
with what the last reply adds.  Nothing but a reset takes a message away.
-/

namespace Toolbench

open Dispatch

variable {ω : Type}

/-- The last turn of a prompt: a fault adds nothing to its messages, an answer adds itself, and at
the limit its calls are added with their results. -/
def Turn.Ends (surroundings : Surroundings ω) (setting : Adapter.Setting) (turn : Turn ω)
    (outcome : Client.Result Conversation × ω) : Prop :=
  match outcome.1.1 with
  | .error fault => turn.answer = .error fault ∧ outcome.1.2.history = turn.messages
  | .ok ⟨.answer text, _⟩ =>
      Reply.ending? turn.answer = some (.ok text) ∧
        outcome.1.2.history = turn.messages ++ [.assistant text]
  | .ok ⟨.turnLimit, _⟩ =>
      ∃ added, turn.Calls surroundings setting added outcome.2 ∧
        outcome.1.2.history = turn.messages ++ added

theorem Reply.ending?_eq_error_iff (answer : Except ClientFault Reply) (fault : ClientFault) :
    Reply.ending? answer = some (.error fault) ↔ answer = .error fault := by
  match answer with
  | .error other => simp [Reply.ending?]
  | .ok (.final text) => simp [Reply.ending?]
  | .ok (.calls content []) => simp [Reply.ending?]
  | .ok (.calls content (call :: rest)) => simp [Reply.ending?]

namespace Client

/-! ## Requests of one prompt -/

theorem history_ask (client : Client) (prompt : String) :
    (client.ask prompt).history =
      client.history ++
        (if client.history = [] then (client.systemPrompt.map Message.system).toList else []) ++
        [.user prompt] := by
  unfold ask
  cases hhistory : client.history with
  | nil => cases hsystem : client.systemPrompt <;> simp
  | cons first rest => simp

theorem Taken.ends {surroundings : Surroundings ω} {client : Client} {left : Nat} {world : ω}
    {turns : List (Turn ω)} {outcome : Result Conversation × ω}
    (h : Taken surroundings client left world turns outcome) :
    ∀ last ∈ turns.getLast?, last.Ends surroundings client.setting outcome := by
  induction h with
  | limit client world => simp
  | @ended client left world ending hfound =>
      intro last hlast
      have hsingle : client.nextTurn surroundings world = last := Option.some.inj hlast
      rw [hsingle] at hfound
      cases ending with
      | error fault =>
          have hanswer := (Reply.ending?_eq_error_iff last.answer fault).mp hfound
          exact ⟨hanswer, hsingle ▸ rfl⟩
      | ok text => exact ⟨hfound, hsingle ▸ rfl⟩
  | @called client left world after content calls results turns outcome hanswer hne hran hrest ih =>
      cases hrest with
      | limit =>
          intro last hlast
          have hsingle : client.nextTurn surroundings world = last := Option.some.inj hlast
          have hcalls := Turn.calls_of_answer surroundings client.setting hanswer hne hran
          rw [hsingle] at hcalls
          exact ⟨_, hcalls, hsingle ▸ rfl⟩
      | ended hfound => exact ih
      | called hnext _ _ _ =>
          rw [List.getLast?_cons_cons]
          exact ih

/-! ## Sessions without a reset -/

theorem history_prefix_ask (client : Client) (prompt : String) :
    client.history <+: (client.ask prompt).history := by
  rw [history_ask, List.append_assoc]
  exact List.prefix_append _ _

theorem history_prefix_send (surroundings : Surroundings ω) (client : Client) (prompt : String)
    (world : ω) :
    client.history <+: ((client.send surroundings prompt).run world).1.2.history := by
  by_cases hstate : client.state = .disconnected
  · rw [send, if_pos hstate]
    exact List.prefix_rfl
  · obtain ⟨turns, outcome, htaken, hrun, _⟩ :=
      send_taken surroundings hstate prompt world []
    rw [hrun, htaken.history_eq]
    exact (client.history_prefix_ask prompt).trans (List.prefix_append _ _)

theorem history_prefix_perform (surroundings : Surroundings ω) (client : Client)
    {operation : Operation ω} (hkeeps : operation ≠ .reset) (world : ω) :
    client.history <+: ((client.perform surroundings operation).run world).1.history := by
  cases operation with
  | connect =>
      rw [perform, connect, StateT.run_bind, StateT.run_bind]
      generalize StateT.run surroundings.backend.connect world = attempt
      obtain ⟨result, world⟩ := attempt
      cases result with
      | ok _ => exact List.prefix_rfl
      | error fault => exact List.prefix_rfl
  | send prompt => exact client.history_prefix_send surroundings prompt world
  | reset => exact absurd rfl hkeeps
  | change step => exact List.prefix_rfl

theorem history_prefix_performAll (surroundings : Surroundings ω) (client : Client)
    {operations : List (Operation ω)} (hkeep : ∀ operation ∈ operations, operation ≠ .reset)
    (world : ω) :
    client.history <+: ((client.performAll surroundings operations).run world).1.history := by
  induction operations generalizing client world with
  | nil => exact List.prefix_rfl
  | cons operation rest ih =>
      obtain ⟨hfirst, hrest⟩ := List.forall_mem_cons.mp hkeep
      have hstep := client.history_prefix_perform surroundings hfirst world
      rw [performAll, StateT.run_bind]
      exact hstep.trans (ih _ hrest _)

/-- What the model sees of a prompt is the conversation as the client keeps it. The first request
holds the history, the system prompt where that is empty, and the prompt; each further request holds
the calls of the reply before it and their results, too; the last reply adds the rest of the
history. Each request names the tools of its moment. Only a reset takes messages away. -/
theorem send_requests (surroundings : Surroundings ω) {client : Client}
    (hstate : client.state ≠ .disconnected) (prompt : String) (world : ω)
    (earlier : List (Turn ω)) :
    ∃ (turns : List (Turn ω)) (outcome : Result Conversation × ω),
      (client.send surroundings prompt).run world = outcome ∧
      (client.send surroundings.recorded prompt).run (world, earlier) =
        (outcome.1, outcome.2, earlier ++ turns) ∧
      (∀ first ∈ turns.head?, first.before = world ∧
        first.messages = client.history ++
          (if client.history = [] then (client.systemPrompt.map Message.system).toList else []) ++
          [.user prompt]) ∧
      (∀ place turn next, turns[place]? = some turn → turns[place + 1]? = some next →
        turn.LeadsTo surroundings client.setting next) ∧
      (∀ last ∈ turns.getLast?, last.Ends surroundings client.setting outcome) ∧
      (turns = [] → outcome.1.2.history = (client.ask prompt).history) ∧
      (∀ turn ∈ turns,
        turn.tools = (surroundings.catalog turn.before).tools.map FunctionEntry.ofTool) ∧
      ∀ (other : Client) (operations : List (Operation ω)) (start : ω),
        (∀ operation ∈ operations, operation ≠ .reset) →
        other.history <+: ((other.performAll surroundings operations).run start).1.history := by
  obtain ⟨turns, outcome, htaken, hrun, hrecorded⟩ :=
    send_taken surroundings hstate prompt world earlier
  refine ⟨turns, outcome, hrun, hrecorded, ?_, ?_, htaken.ends, ?_, htaken.tools_eq, ?_⟩
  · intro first hfirst
    rw [htaken.head?_eq first hfirst, ← history_ask]
    exact ⟨rfl, rfl⟩
  · intro place turn next hturn hnext
    have hchain := List.isChain_iff_getElem.mp htaken.isChain
    obtain ⟨hplace, rfl⟩ := List.getElem?_eq_some_iff.mp hturn
    obtain ⟨hbound, rfl⟩ := List.getElem?_eq_some_iff.mp hnext
    exact hchain place hbound
  · intro hnone
    have hhistory := htaken.history_eq
    rw [hnone, List.flatMap_nil, List.append_nil] at hhistory
    exact hhistory
  · intro other operations start hkeep
    exact other.history_prefix_performAll surroundings hkeep start

theorem send_requests_sample :
    sampleClient.state ≠ .disconnected ∧
      ∃ (first second : Turn (List Reply)) (outcome : Result Conversation × List Reply),
        (sampleClient.send scripted.recorded "time?").run (sampleReplies, []) =
          (outcome.1, outcome.2, [first, second]) ∧
        first.messages = [.system "Be brief.", .user "time?"] ∧
        first.LeadsTo scripted {} second ∧
        outcome.1.2.history = second.messages ++ [.assistant "noon"] := by
  have hstate : sampleClient.state ≠ .disconnected := by
    decide
  obtain ⟨turns, outcome, hrun, hrecorded, hfirst, hnext, hlast, _⟩ :=
    send_requests scripted hstate "time?" sampleReplies []
  rw [List.nil_append] at hrecorded
  have hlength : turns.length = 2 :=
    calc
      turns.length =
          ((sampleClient.send scripted.recorded "time?").run (sampleReplies, [])).2.2.length := by
        rw [hrecorded]
      _ = 2 := rfl
  have hresult : outcome.1.1 = .ok ⟨.answer "noon", 2⟩ := by
    rw [← hrun]
    rfl
  match turns, hlength with
  | [first, second], _ =>
      refine ⟨hstate, first, second, outcome, hrecorded, (hfirst first rfl).2,
        hnext 0 first second rfl rfl, ?_⟩
      have hends := hlast second rfl
      unfold Turn.Ends at hends
      rw [hresult] at hends
      exact hends.2

end Client

end Toolbench
