import Mathlib.Data.List.Induction
import Toolbench.Proofs.Conversation.Session
import Toolbench.Proofs.Conversation.Turns

/-!
# Where a client stands

What the operations of a session came to decides where the client stands between them: whether it
is connected by the latest attempt to connect, and how it stands while it is by the latest
operation alone.
-/

namespace Toolbench

variable {ω : Type}

/-- What an operation of a client came to. -/
inductive Event where
  | connected (result : Except ClientFault Unit)
  | sent (result : Except ClientFault Conversation)
  | reset

namespace Event

/-- The result of an attempt to connect. -/
def attempt? : Event → Option (Except ClientFault Unit)
  | connected result => some result
  | sent _ => none
  | reset => none

/-- Where an event leaves a client that is not disconnected. -/
def standing : Event → ClientState
  | connected (.ok ()) => .connected
  | connected (.error _) => .disconnected
  | sent (.ok ⟨.answer _, _⟩) => .done
  | sent (.ok ⟨.turnLimit, _⟩) => .failed
  | sent (.error _) => .failed
  | reset => .connected

def lastAttempt (events : List Event) : Option (Except ClientFault Unit) :=
  (events.filterMap attempt?).getLast?

end Event

/-- Where a client stands after an event: without a connection only connecting makes a change. -/
def ClientState.next (state : ClientState) (event : Event) : ClientState :=
  if state = .disconnected ∧ event.attempt? = none then .disconnected else event.standing

namespace Client

/-! ## What operations come to -/

/-- The client after an operation, with what the operation came to.  A change around the client is
nothing that the client does. -/
def observe (surroundings : Surroundings ω) (client : Client) :
    Operation ω → StateM ω (Option Event × Client)
  | .connect => do
      let (result, client) ← client.connect surroundings
      return (some (.connected result), client)
  | .send prompt => do
      let (result, client) ← client.send surroundings prompt
      return (some (.sent result), client)
  | .reset => return (some .reset, client.reset)
  | .change step => do
      modify step
      return (none, client)

/-- The client after operations, with what each of them came to. -/
def observeAll (surroundings : Surroundings ω) (client : Client) :
    List (Operation ω) → StateM ω (List Event × Client)
  | [] => return ([], client)
  | operation :: rest => do
      let (event, client) ← client.observe surroundings operation
      let (events, client) ← client.observeAll surroundings rest
      return (event.toList ++ events, client)

theorem perform_eq (surroundings : Surroundings ω) (client : Client) (operation : Operation ω) :
    client.perform surroundings operation = Prod.snd <$> client.observe surroundings operation := by
  cases operation <;> rfl

theorem performAll_eq (surroundings : Surroundings ω) (client : Client)
    (operations : List (Operation ω)) :
    client.performAll surroundings operations =
      Prod.snd <$> client.observeAll surroundings operations := by
  induction operations generalizing client with
  | nil => rfl
  | cons operation rest ih =>
      rw [performAll, observeAll, perform_eq]
      simp only [ih]
      rfl

/-! ## One operation -/

theorem Taken.state_eq {surroundings : Surroundings ω} {client : Client} {left : Nat} {world : ω}
    {turns : List (Turn ω)} {outcome : Result Conversation × ω}
    (h : Taken surroundings client left world turns outcome) :
    outcome.1.2.state = (Event.sent outcome.1.1).standing := by
  induction h with
  | limit client world => rfl
  | @ended client left world ending hfound => cases ending <;> rfl
  | called _ _ _ _ ih => exact ih

theorem send_of_disconnected (surroundings : Surroundings ω) {client : Client}
    (hstate : client.state = .disconnected) (prompt : String) (world : ω) :
    (client.send surroundings prompt).run world = ((.error .notConnected, client), world) := by
  rw [send, if_pos hstate]
  rfl

theorem state_send (surroundings : Surroundings ω) (client : Client) (prompt : String)
    (world : ω) :
    ((client.send surroundings prompt).run world).1.2.state =
      client.state.next (.sent ((client.send surroundings prompt).run world).1.1) := by
  by_cases hstate : client.state = .disconnected
  · rw [send_of_disconnected surroundings hstate prompt world]
    show client.state = client.state.next _
    rw [hstate]
    rfl
  · obtain ⟨turns, outcome, htaken, hrun, _⟩ :=
      send_taken surroundings hstate prompt world []
    rw [hrun, htaken.state_eq, ClientState.next, if_neg]
    intro hand
    exact hstate hand.1

theorem state_connect (surroundings : Surroundings ω) (client : Client) (world : ω) :
    let outcome := ((client.connect surroundings).run world).1
    outcome.2.state = (Event.connected outcome.1).standing := by
  rw [connect, StateT.run_bind]
  generalize StateT.run surroundings.backend.connect world = attempt
  obtain ⟨result, world⟩ := attempt
  cases result with
  | ok _ => rfl
  | error fault => rfl

theorem state_observe (surroundings : Surroundings ω) (client : Client)
    (operation : Operation ω) (world : ω) :
    let outcome := ((client.observe surroundings operation).run world).1
    outcome.2.state = outcome.1.toList.foldl ClientState.next client.state := by
  cases operation with
  | connect =>
      have hattempt : ∀ state result,
          ClientState.next state (.connected result) = (Event.connected result).standing := by
        intro state result
        exact if_neg fun hand => nomatch hand.2
      exact (client.state_connect surroundings world).trans (hattempt _ _).symm
  | send prompt => exact client.state_send surroundings prompt world
  | reset =>
      by_cases hstate : client.state = .disconnected
      · show client.reset.state = client.state.next .reset
        simp [reset, ClientState.next, hstate, Event.attempt?]
      · show client.reset.state = client.state.next .reset
        simp [reset, ClientState.next, hstate, Event.standing]
  | change step => rfl

theorem state_observeAll (surroundings : Surroundings ω) (client : Client)
    (operations : List (Operation ω)) (world : ω) :
    let outcome := ((client.observeAll surroundings operations).run world).1
    outcome.2.state = outcome.1.foldl ClientState.next client.state := by
  induction operations generalizing client world with
  | nil => rfl
  | cons operation rest ih =>
      have hfirst := client.state_observe surroundings operation world
      let first := (client.observe surroundings operation).run world
      have hrest := ih first.1.2 first.2
      let more := (first.1.2.observeAll surroundings rest).run first.2
      show more.1.2.state = (first.1.1.toList ++ more.1.1).foldl ClientState.next client.state
      rw [List.foldl_append, ← hfirst]
      exact hrest

end Client

/-! ## What events say of the state -/

namespace Event

theorem lastAttempt_append (events : List Event) (event : Event) :
    lastAttempt (events ++ [event]) = event.attempt?.or (lastAttempt events) := by
  unfold lastAttempt
  rw [List.filterMap_append, List.getLast?_append]
  cases hattempt : event.attempt? <;> simp [hattempt]

theorem standing_eq_disconnected_iff (event : Event) :
    event.standing = .disconnected ↔ ∃ fault, event.attempt? = some (.error fault) := by
  unfold standing
  split <;> simp [attempt?]

theorem standing_eq_connected_iff (event : Event) :
    event.standing = .connected ↔ event = .connected (.ok ()) ∨ event = .reset := by
  unfold standing
  split <;> simp

theorem standing_eq_done_iff (event : Event) :
    event.standing = .done ↔ ∃ text turns, event = .sent (.ok ⟨.answer text, turns⟩) := by
  unfold standing
  split <;> simp

theorem standing_eq_failed_iff (event : Event) :
    event.standing = .failed ↔
      (∃ fault, event = .sent (.error fault)) ∨ ∃ turns, event = .sent (.ok ⟨.turnLimit, turns⟩) := by
  unfold standing
  split <;> simp

theorem standing_mem (event : Event) :
    event.standing ∈ [ClientState.disconnected, .connected, .done, .failed] := by
  unfold standing
  split <;> simp

/-- A client is disconnected where it never tried to connect or failed to at the latest attempt. -/
theorem foldl_next_eq_disconnected_iff (events : List Event) :
    events.foldl ClientState.next .disconnected = .disconnected ↔
      lastAttempt events = none ∨ ∃ fault, lastAttempt events = some (.error fault) := by
  induction events using List.reverseRecOn with
  | nil => simp [lastAttempt]
  | append_singleton events event ih =>
      rw [List.foldl_append, List.foldl_cons, List.foldl_nil, lastAttempt_append,
        ClientState.next]
      cases hattempt : event.attempt? with
      | some result =>
          rw [if_neg (by simp), standing_eq_disconnected_iff, hattempt]
          simp
      | none =>
          have hstanding : event.standing ≠ .disconnected := by
            rw [Ne, standing_eq_disconnected_iff, hattempt]
            simp
          rw [Option.none_or, ← ih]
          by_cases hstate : events.foldl ClientState.next .disconnected = .disconnected
          · simp [hstate]
          · simp [hstate, hstanding]

/-- A client that is not disconnected stands where the latest event left it. -/
theorem foldl_next_eq_standing {events : List Event}
    (hstate : events.foldl ClientState.next .disconnected ≠ .disconnected) :
    ∃ event, events.getLast? = some event ∧
      events.foldl ClientState.next .disconnected = event.standing := by
  induction events using List.reverseRecOn with
  | nil => exact absurd rfl hstate
  | append_singleton events event ih =>
      refine ⟨event, List.getLast?_concat, ?_⟩
      rw [List.foldl_append, List.foldl_cons, List.foldl_nil, ClientState.next] at hstate ⊢
      by_cases hkept : events.foldl ClientState.next .disconnected = .disconnected ∧
          event.attempt? = none
      · rw [if_pos hkept] at hstate
        exact absurd rfl hstate
      · rw [if_neg hkept]

end Event

namespace Client

/-- Between the operations of a session a client is disconnected, connected, done or failed. It is
disconnected where it never tried to connect or the latest attempt failed, and then sends nothing:
nothing that it could reach is touched. Else the latest operation decides: it is done after an
answer, failed after a fault or the limit, connected after connecting or a reset. -/
theorem observeAll_state (surroundings : Surroundings ω) (operations : List (Operation ω))
    (maxTurns : Nat) (systemPrompt : Option String) (setting : Adapter.Setting) (world : ω) :
    let start := fresh maxTurns systemPrompt setting
    let outcome := (start.observeAll surroundings operations).run world
    let events := outcome.1.1
    let client := outcome.1.2
    (start.performAll surroundings operations).run world = (client, outcome.2) ∧
      client.state ∈ [.disconnected, .connected, .done, .failed] ∧
      (client.state = .disconnected ↔ Event.lastAttempt events = none ∨
        ∃ fault, Event.lastAttempt events = some (.error fault)) ∧
      (client.state = .disconnected →
        (∀ (τ : Type) (others : Surroundings τ) (elsewhere : τ) (prompt : String),
          (client.send others prompt).run elsewhere =
            ((.error .notConnected, client), elsewhere)) ∧
        client.reset.state = .disconnected ∧ client.reset.history = []) ∧
      (client.state ≠ .disconnected →
        (client.state = .done ↔
          ∃ text turns, events.getLast? = some (.sent (.ok ⟨.answer text, turns⟩))) ∧
        (client.state = .failed ↔
          (∃ fault, events.getLast? = some (.sent (.error fault))) ∨
            ∃ turns, events.getLast? = some (.sent (.ok ⟨.turnLimit, turns⟩))) ∧
        (client.state = .connected ↔
          events.getLast? = some (.connected (.ok ())) ∨ events.getLast? = some .reset)) := by
  intro start outcome events client
  have hstate : client.state = events.foldl ClientState.next .disconnected :=
    start.state_observeAll surroundings operations world
  refine ⟨?_, ?_, ?_, ?_, ?_⟩
  · rw [performAll_eq]
    rfl
  · by_cases hdisconnected : client.state = .disconnected
    · rw [hdisconnected]
      exact List.mem_cons_self
    · rw [hstate] at hdisconnected ⊢
      obtain ⟨event, _, hstanding⟩ := Event.foldl_next_eq_standing hdisconnected
      rw [hstanding]
      exact event.standing_mem
  · rw [hstate]
    exact Event.foldl_next_eq_disconnected_iff events
  · intro hdisconnected
    refine ⟨?_, ?_, rfl⟩
    · intro τ others elsewhere prompt
      exact send_of_disconnected others hdisconnected prompt elsewhere
    · exact if_pos hdisconnected
  · intro hconnected
    rw [hstate] at hconnected
    obtain ⟨event, hlast, hstanding⟩ := Event.foldl_next_eq_standing hconnected
    rw [hstate, hstanding, hlast, event.standing_eq_done_iff, event.standing_eq_failed_iff,
      event.standing_eq_connected_iff]
    simp

end Client

end Toolbench
