import Mathlib.Data.List.Chain
import Toolbench.Proofs.Conversation.Dispatch
import Toolbench.Proofs.Conversation.Recording

/-!
# The turns of a prompt

A prompt asks the model for replies until one of them is no call, or the limit is reached.  The
record of the requests says how many replies that took, and what each of them added.
-/

namespace Toolbench

open Dispatch

variable {ω : Type}

/-- How an answer of the model ends a prompt, unless it asks for calls. -/
def Reply.ending? : Except ClientFault Reply → Option (Except ClientFault String)
  | .error fault => some (.error fault)
  | .ok (.final answer) => some (.ok answer)
  | .ok (.calls content []) => some (.ok (content.getD ""))
  | .ok (.calls _ (_ :: _)) => none

theorem Reply.ending?_eq_none_iff (answer : Except ClientFault Reply) :
    Reply.ending? answer = none ↔
      ∃ content calls, answer = .ok (.calls content calls) ∧ calls ≠ [] := by
  constructor
  · intro hnone
    match answer, hnone with
    | .ok (.calls content (call :: rest)), _ => exact ⟨content, _, rfl, List.cons_ne_nil call rest⟩
  · rintro ⟨content, calls, rfl, hcalls⟩
    cases calls with
    | nil => exact absurd rfl hcalls
    | cons call rest => rfl

/-- What a turn adds to the conversation, and the world that it leaves. -/
def Turn.close (surroundings : Surroundings ω) (setting : Adapter.Setting) (turn : Turn ω) :
    List Message × ω :=
  match turn.answer with
  | .error _ => ([], turn.after)
  | .ok (.final answer) => ([.assistant answer], turn.after)
  | .ok (.calls content []) => ([.assistant (content.getD "")], turn.after)
  | .ok (.calls content (call :: rest)) =>
      let (results, world) := surroundings.runCalls setting (call :: rest) turn.after
      (.calls content (call :: rest) :: results, world)

theorem Surroundings.answers_runCalls (surroundings : Surroundings ω)
    (setting : Adapter.Setting) (calls : List ToolCall) (world : ω) :
    List.Forall₂ Answers calls (surroundings.runCalls setting calls world).1 :=
  answers_forall₂ surroundings.host setting surroundings.catalog calls
    (surroundings.completion world calls.length) world

/-- A turn asks for calls: running them leads to a world, and the calls with their results are
what is added to the conversation. -/
def Turn.Calls (surroundings : Surroundings ω) (setting : Adapter.Setting) (turn : Turn ω)
    (added : List Message) (world : ω) : Prop :=
  ∃ content calls results, turn.answer = .ok (.calls content calls) ∧ calls ≠ [] ∧
    surroundings.runCalls setting calls turn.after = (results, world) ∧
    List.Forall₂ Answers calls results ∧ added = .calls content calls :: results

/-- A turn takes up the conversation and the world where the calls of another one left them. -/
def Turn.LeadsTo (surroundings : Surroundings ω) (setting : Adapter.Setting)
    (turn next : Turn ω) : Prop :=
  ∃ added, turn.Calls surroundings setting added next.before ∧
    next.messages = turn.messages ++ added

section Calls

variable (surroundings : Surroundings ω) (setting : Adapter.Setting) {turn : Turn ω}
  {content : Option String} {calls : List ToolCall} {results : List Message} {world : ω}

theorem Turn.calls_of_answer (hanswer : turn.answer = .ok (.calls content calls))
    (hcalls : calls ≠ [])
    (hran : surroundings.runCalls setting calls turn.after = (results, world)) :
    turn.Calls surroundings setting (.calls content calls :: results) world := by
  have hresults := surroundings.answers_runCalls setting calls turn.after
  rw [hran] at hresults
  exact ⟨content, calls, results, hanswer, hcalls, hran, hresults, rfl⟩

theorem Turn.close_of_answer (hanswer : turn.answer = .ok (.calls content calls))
    (hcalls : calls ≠ [])
    (hran : surroundings.runCalls setting calls turn.after = (results, world)) :
    turn.close surroundings setting = (.calls content calls :: results, world) := by
  unfold Turn.close
  rw [hanswer]
  cases calls with
  | nil => exact absurd rfl hcalls
  | cons call rest =>
      simp only [hran]

theorem Turn.calls_close (hnone : Reply.ending? turn.answer = none) :
    turn.Calls surroundings setting (turn.close surroundings setting).1
      (turn.close surroundings setting).2 := by
  obtain ⟨content, calls, hanswer, hcalls⟩ := (Reply.ending?_eq_none_iff _).mp hnone
  have hclose := Turn.close_of_answer surroundings setting hanswer hcalls rfl
  rw [hclose]
  exact Turn.calls_of_answer surroundings setting hanswer hcalls rfl

end Calls

namespace Client

/-! ## One turn -/

/-- The client when a prompt ends with an answer or a fault, and the result. -/
def conclude (client : Client) (turns : Nat) : Except ClientFault String → Result Conversation
  | .error fault => (.error fault, { client with state := .failed })
  | .ok answer => client.finish answer turns

theorem run_takeTurns_of_ending (surroundings : Surroundings ω) (client : Client) (left : Nat)
    (world : ω) {ending : Except ClientFault String}
    (hending : Reply.ending? (client.nextTurn surroundings world).answer = some ending) :
    (client.takeTurns surroundings (left + 1)).run world =
      (client.conclude (client.maxTurns - left) ending,
        (client.nextTurn surroundings world).after) := by
  have hrequest := run_request surroundings { client with state := .awaitingModel } world
  rw [takeTurns, StateT.run_bind, hrequest]
  change Reply.ending? (nextTurn surroundings { client with state := .awaitingModel }
    world).answer = some ending at hending
  cases hanswer : (nextTurn surroundings { client with state := .awaitingModel } world).answer with
  | error fault =>
      rw [hanswer, Reply.ending?, Option.some.injEq] at hending
      subst hending
      rfl
  | ok reply =>
      rw [hanswer] at hending
      match reply, hending with
      | .final answer, hending =>
          rw [Reply.ending?, Option.some.injEq] at hending
          subst hending
          rfl
      | .calls content [], hending =>
          rw [Reply.ending?, Option.some.injEq] at hending
          subst hending
          rfl

theorem run_takeTurns_of_calls (surroundings : Surroundings ω) (client : Client) (left : Nat)
    (world : ω) {content : Option String} {calls : List ToolCall}
    (hanswer : (client.nextTurn surroundings world).answer = .ok (.calls content calls))
    (hcalls : calls ≠ []) {results : List Message} {after : ω}
    (hran : surroundings.runCalls client.setting calls
      (client.nextTurn surroundings world).after = (results, after)) :
    (client.takeTurns surroundings (left + 1)).run world =
      ((client.told content calls results).takeTurns surroundings left).run after := by
  have hrequest := run_request surroundings { client with state := .awaitingModel } world
  rw [takeTurns, StateT.run_bind, hrequest]
  change (nextTurn surroundings { client with state := .awaitingModel } world).answer = _
    at hanswer
  rw [hanswer]
  cases calls with
  | nil => exact absurd rfl hcalls
  | cons call rest =>
      have hdispatch := run_dispatch surroundings client content (call :: rest)
        (client.nextTurn surroundings world).after
      rw [hran] at hdispatch
      show (takeTurns surroundings ((client.dispatch surroundings content (call :: rest)).run
        (client.nextTurn surroundings world).after).1 left).run
          ((client.dispatch surroundings content (call :: rest)).run
            (client.nextTurn surroundings world).after).2 = _
      rw [hdispatch]

/-! ## All turns -/

/-- The turns that a client takes, given how many it may take, and what they come to. -/
inductive Taken (surroundings : Surroundings ω) :
    Client → Nat → ω → List (Turn ω) → Result Conversation × ω → Prop where
  | limit (client : Client) (world : ω) :
      Taken surroundings client 0 world []
        ((.ok ⟨.turnLimit, client.maxTurns⟩, { client with state := .failed }), world)
  | ended {client : Client} {left : Nat} {world : ω} {ending : Except ClientFault String} :
      Reply.ending? (client.nextTurn surroundings world).answer = some ending →
      Taken surroundings client (left + 1) world [client.nextTurn surroundings world]
        (client.conclude (client.maxTurns - left) ending,
          (client.nextTurn surroundings world).after)
  | called {client : Client} {left : Nat} {world after : ω} {content : Option String}
      {calls : List ToolCall} {results : List Message} {turns : List (Turn ω)}
      {outcome : Result Conversation × ω} :
      (client.nextTurn surroundings world).answer = .ok (.calls content calls) → calls ≠ [] →
      surroundings.runCalls client.setting calls
        (client.nextTurn surroundings world).after = (results, after) →
      Taken surroundings (client.told content calls results) left after turns outcome →
      Taken surroundings client (left + 1) world (client.nextTurn surroundings world :: turns)
        outcome

/-- The record of the turns that a client takes is the list of these turns, and keeping it changes
nothing else. -/
theorem takeTurns_taken (surroundings : Surroundings ω) (client : Client) (left : Nat) (world : ω)
    (earlier : List (Turn ω)) :
    ∃ turns outcome, Taken surroundings client left world turns outcome ∧
      (client.takeTurns surroundings left).run world = outcome ∧
      (client.takeTurns surroundings.recorded left).run (world, earlier) =
        (outcome.1, outcome.2, earlier ++ turns) := by
  induction left generalizing client world earlier with
  | zero =>
      refine ⟨[], _, .limit client world, rfl, ?_⟩
      rw [List.append_nil]
      rfl
  | succ left ih =>
      let turn := client.nextTurn surroundings world
      cases hending : Reply.ending? turn.answer with
      | some ending =>
          have hrun := run_takeTurns_of_ending surroundings client left world hending
          have hrecorded := run_takeTurns_of_ending surroundings.recorded client left
            (world, earlier) hending
          exact ⟨[turn], _, .ended hending, hrun, hrecorded⟩
      | none =>
          obtain ⟨content, calls, hanswer, hcalls⟩ := (Reply.ending?_eq_none_iff _).mp hending
          obtain ⟨⟨results, after⟩, hran⟩ :
              ∃ ran, surroundings.runCalls client.setting calls turn.after = ran := ⟨_, rfl⟩
          have hrun := run_takeTurns_of_calls surroundings client left world hanswer hcalls hran
          have hkept := surroundings.runCalls_recorded client.setting calls turn.after
            (earlier ++ [turn])
          rw [hran] at hkept
          have hrecorded := run_takeTurns_of_calls surroundings.recorded client left
            (world, earlier) hanswer hcalls hkept
          obtain ⟨turns, outcome, htaken, hrest, hrecord⟩ :=
            ih (client.told content calls results) after (earlier ++ [turn])
          refine ⟨turn :: turns, outcome, .called hanswer hcalls hran htaken, ?_, ?_⟩
          · rw [hrun, hrest]
          · rw [hrecorded, hrecord, List.append_assoc]
            rfl

section Turns

variable {surroundings : Surroundings ω} {client : Client} {left : Nat} {world : ω}
  {turns : List (Turn ω)} {outcome : Result Conversation × ω}

/-! ## How many turns there are -/

/-- The answers of turns are those of a sequence, one after the other. -/
def Answered (turns : List (Turn ω)) (answers : Nat → Except ClientFault Reply) : Prop :=
  ∀ place turn, turns[place]? = some turn → turn.answer = answers place

theorem Answered.head {turn : Turn ω} {answers : Nat → Except ClientFault Reply}
    (h : Answered (turn :: turns) answers) : turn.answer = answers 0 :=
  h 0 turn rfl

theorem Answered.tail {turn : Turn ω} {answers : Nat → Except ClientFault Reply}
    (h : Answered (turn :: turns) answers) : Answered turns fun place => answers (place + 1) := by
  intro place other hother
  exact h (place + 1) other hother

/-- The first answer that ends a prompt is the last one that is asked for. -/
theorem Taken.count_of_ending (h : Taken surroundings client left world turns outcome)
    (hleft : left ≤ client.maxTurns) {answers : Nat → Except ClientFault Reply}
    (hanswers : Answered turns answers) {place : Nat} {ending : Except ClientFault String}
    (hplace : place < left) (hcalls : ∀ earlier < place, Reply.ending? (answers earlier) = none)
    (hending : Reply.ending? (answers place) = some ending) :
    turns.length = place + 1 ∧
      outcome.1.1 =
        ending.map fun text => ⟨.answer text, client.maxTurns - left + place + 1⟩ := by
  induction h generalizing answers place with
  | limit client world => omega
  | @ended client left world found hfound =>
      rw [hanswers.head] at hfound
      cases place with
      | zero =>
          rw [hending, Option.some.injEq] at hfound
          subst hfound
          refine ⟨rfl, ?_⟩
          have hturns : client.maxTurns - left = client.maxTurns - (left + 1) + 0 + 1 := by
            omega
          rw [hturns]
          cases ending <;> rfl
      | succ place =>
          rw [hcalls 0 (Nat.zero_lt_succ place)] at hfound
          cases hfound
  | @called client left world after content calls results turns outcome hanswer hne _ _ ih =>
      have hnone := (Reply.ending?_eq_none_iff _).mpr ⟨content, calls, hanswer, hne⟩
      rw [hanswers.head] at hnone
      cases place with
      | zero =>
          rw [hending] at hnone
          cases hnone
      | succ place =>
          have hbound : left ≤ client.maxTurns := by omega
          obtain ⟨hlength, hresult⟩ := ih hbound hanswers.tail (by omega)
            (fun earlier hearlier => hcalls (earlier + 1) (by omega)) hending
          refine ⟨by rw [List.length_cons, hlength], ?_⟩
          have hturns : client.maxTurns - left + place + 1 =
              client.maxTurns - (left + 1) + (place + 1) + 1 := by
            omega
          rw [hresult, ← hturns]
          rfl

theorem Taken.count_of_no_ending (h : Taken surroundings client left world turns outcome)
    {answers : Nat → Except ClientFault Reply} (hanswers : Answered turns answers)
    (hcalls : ∀ place < left, Reply.ending? (answers place) = none) :
    turns.length = left ∧ outcome.1.1 = .ok ⟨.turnLimit, client.maxTurns⟩ := by
  induction h generalizing answers with
  | limit client world => exact ⟨rfl, rfl⟩
  | ended hfound =>
      rw [hanswers.head, hcalls 0 (Nat.zero_lt_succ _)] at hfound
      cases hfound
  | called _ _ _ _ ih =>
      obtain ⟨hlength, hresult⟩ := ih hanswers.tail fun place hplace => hcalls (place + 1) (by omega)
      exact ⟨by rw [List.length_cons, hlength], hresult⟩

/-! ## What the turns leave -/

theorem Taken.head?_eq (h : Taken surroundings client left world turns outcome) :
    ∀ first ∈ turns.head?, first = client.nextTurn surroundings world := by
  intro first hfirst
  cases h with
  | limit => cases hfirst
  | ended => exact (Option.some.inj hfirst).symm
  | called => exact (Option.some.inj hfirst).symm

theorem Taken.tools_eq (h : Taken surroundings client left world turns outcome) :
    ∀ turn ∈ turns, turn.tools = (surroundings.catalog turn.before).functionEntries := by
  induction h with
  | limit client world => simp
  | ended hfound => exact List.forall_mem_singleton.mpr rfl
  | called _ _ _ _ ih => exact List.forall_mem_cons.mpr ⟨rfl, ih⟩

/-- Each request holds the messages of the one before it, and the calls of its reply with their
results. -/
theorem Taken.isChain (h : Taken surroundings client left world turns outcome) :
    turns.IsChain (Turn.LeadsTo surroundings client.setting) := by
  induction h with
  | limit client world => exact .nil
  | ended hfound => exact .singleton _
  | @called client left world after content calls results turns outcome hanswer hne hran hrest ih =>
      have hcalls := Turn.calls_of_answer surroundings client.setting hanswer hne hran
      refine List.IsChain.cons ih fun next hnext => ?_
      rw [hrest.head?_eq next hnext]
      exact ⟨_, hcalls, rfl⟩

theorem close_of_ending {turn : Turn ω} {ending : Except ClientFault String}
    (hending : Reply.ending? turn.answer = some ending) (surroundings : Surroundings ω)
    (client : Client) (count : Nat) :
    (client.conclude count ending).2.history =
        client.history ++ (turn.close surroundings client.setting).1 ∧
      turn.after = (turn.close surroundings client.setting).2 := by
  unfold Turn.close
  match hanswer : turn.answer with
  | .error fault =>
      rw [hanswer, Reply.ending?, Option.some.injEq] at hending
      subst hending
      exact ⟨(List.append_nil _).symm, rfl⟩
  | .ok (.final answer) =>
      rw [hanswer, Reply.ending?, Option.some.injEq] at hending
      subst hending
      exact ⟨rfl, rfl⟩
  | .ok (.calls content []) =>
      rw [hanswer, Reply.ending?, Option.some.injEq] at hending
      subst hending
      exact ⟨rfl, rfl⟩
  | .ok (.calls content (call :: rest)) =>
      rw [hanswer] at hending
      cases hending

/-- All turns together add to the conversation what each of them adds, in order. -/
theorem Taken.history_eq (h : Taken surroundings client left world turns outcome) :
    outcome.1.2.history =
      client.history ++ turns.flatMap fun turn => (turn.close surroundings client.setting).1 := by
  induction h with
  | limit client world => exact (List.append_nil _).symm
  | @ended client left world ending hfound =>
      have hclose := close_of_ending hfound surroundings client (client.maxTurns - left)
      rw [hclose.1, List.flatMap_singleton]
  | @called client left world after content calls results turns outcome hanswer hne hran _ ih =>
      have hclose := Turn.close_of_answer surroundings client.setting hanswer hne hran
      rw [ih, List.flatMap_cons, hclose, ← List.append_assoc]
      rfl

theorem Taken.world_eq (h : Taken surroundings client left world turns outcome) :
    outcome.2 =
      (turns.getLast?.map fun last => (last.close surroundings client.setting).2).getD world := by
  induction h with
  | limit client world => rfl
  | @ended client left world ending hfound =>
      exact (close_of_ending hfound surroundings client (client.maxTurns - left)).2
  | @called client left world after content calls results turns outcome hanswer hne hran hrest ih =>
      cases hrest with
      | limit =>
          have hclose := Turn.close_of_answer surroundings client.setting hanswer hne hran
          show after = ((client.nextTurn surroundings world).close surroundings client.setting).2
          rw [hclose]
      | ended hfound => exact ih
      | called hnext _ _ _ =>
          rw [List.getLast?_cons_cons]
          exact ih

end Turns

/-! ## Prompts -/

theorem send_taken (surroundings : Surroundings ω) {client : Client}
    (hstate : client.state ≠ .disconnected) (prompt : String) (world : ω)
    (earlier : List (Turn ω)) :
    ∃ turns outcome,
      Taken surroundings (client.ask prompt) client.maxTurns world turns outcome ∧
      (client.send surroundings prompt).run world = outcome ∧
      (client.send surroundings.recorded prompt).run (world, earlier) =
        (outcome.1, outcome.2, earlier ++ turns) := by
  rw [send, if_neg hstate, send, if_neg hstate]
  exact takeTurns_taken surroundings (client.ask prompt) client.maxTurns world earlier

/-- A prompt takes as many turns as it needs to come to an answer of the model that is no call, and
this answer is its result. Where none of the turns that it may take has one, it takes all of them,
and all calls are run and stand in the conversation with their results. Neither the history of the
client nor earlier turns count. -/
theorem send_turns (surroundings : Surroundings ω) {client : Client}
    (hstate : client.state ≠ .disconnected) (prompt : String) (world : ω)
    (earlier : List (Turn ω)) :
    ∃ (turns : List (Turn ω)) (outcome : Result Conversation × ω),
      (client.send surroundings prompt).run world = outcome ∧
      (client.send surroundings.recorded prompt).run (world, earlier) =
        (outcome.1, outcome.2, earlier ++ turns) ∧
      ∀ answers, Answered turns answers →
        (∀ place < client.maxTurns, ∀ ending,
          (∀ before < place, Reply.ending? (answers before) = none) →
          Reply.ending? (answers place) = some ending →
          turns.length = place + 1 ∧
            outcome.1.1 = ending.map fun text => ⟨.answer text, place + 1⟩) ∧
        ((∀ place < client.maxTurns, Reply.ending? (answers place) = none) →
          turns.length = client.maxTurns ∧
          outcome.1.1 = .ok ⟨.turnLimit, client.maxTurns⟩ ∧
          (∀ turn ∈ turns, turn.Calls surroundings client.setting
            (turn.close surroundings client.setting).1
            (turn.close surroundings client.setting).2) ∧
          turns.IsChain (Turn.LeadsTo surroundings client.setting) ∧
          outcome.2 =
            (turns.getLast?.map fun last => (last.close surroundings client.setting).2).getD world ∧
          outcome.1.2.history = (client.ask prompt).history ++
            turns.flatMap fun turn => (turn.close surroundings client.setting).1) := by
  obtain ⟨turns, outcome, htaken, hrun, hrecorded⟩ :=
    send_taken surroundings hstate prompt world earlier
  refine ⟨turns, outcome, hrun, hrecorded, fun answers hanswers => ⟨?_, ?_⟩⟩
  · intro place hplace ending hcalls hending
    obtain ⟨hlength, hresult⟩ :=
      htaken.count_of_ending (Nat.le_refl _) hanswers hplace hcalls hending
    have hstart : (client.ask prompt).maxTurns - client.maxTurns = 0 := Nat.sub_self _
    rw [hstart, Nat.zero_add] at hresult
    exact ⟨hlength, hresult⟩
  · intro hcalls
    obtain ⟨hlength, hresult⟩ := htaken.count_of_no_ending hanswers hcalls
    refine ⟨hlength, hresult, ?_, htaken.isChain, htaken.world_eq, htaken.history_eq⟩
    intro turn hturn
    obtain ⟨place, hplace⟩ := List.mem_iff_getElem?.mp hturn
    have hbound : place < turns.length := (List.getElem?_eq_some_iff.mp hplace).1
    have hnone := hcalls place (by omega)
    rw [← hanswers place turn hplace] at hnone
    exact Turn.calls_close surroundings client.setting hnone

/-- Surroundings with a model that gives the replies of a list one by one, and without tools. -/
def scripted : Surroundings (List Reply) where
  backend :=
    { connect := return .ok ()
      complete := fun _ _ => do
        match ← get with
        | [] => return .error (.backend "script exhausted")
        | reply :: rest =>
            set rest
            return .ok reply }
  host := { exchange := fun _ _ => return .timedOut, run := fun _ => return .timedOut }
  catalog _ := .empty

/-- A call, an answer, and what is never asked for. -/
def sampleReplies : List Reply :=
  [.calls none [{ id := "1", name := "clock" }], .final "noon", .final "later"]

/-- A client that may take three turns. -/
def sampleClient : Client :=
  { maxTurns := 3, systemPrompt := some "Be brief.", state := .connected }

theorem send_turns_two :
    sampleClient.state ≠ .disconnected ∧
      ∃ (turns : List (Turn (List Reply))) (outcome : Result Conversation × List Reply),
        (sampleClient.send scripted.recorded "time?").run (sampleReplies, []) =
          (outcome.1, outcome.2, turns) ∧
        turns.length = 2 ∧ outcome.1.1 = .ok ⟨.answer "noon", 2⟩ := by
  have hstate : sampleClient.state ≠ .disconnected := by
    decide
  obtain ⟨turns, outcome, _, hrecorded, hcounts⟩ :=
    send_turns scripted hstate "time?" sampleReplies []
  rw [List.nil_append] at hrecorded
  have hturns : turns.map (·.answer) = (sampleReplies.take 2).map .ok :=
    calc
      turns.map (·.answer) =
          ((sampleClient.send scripted.recorded "time?").run (sampleReplies, [])).2.2.map
            (·.answer) := by
        rw [hrecorded]
      _ = (sampleReplies.take 2).map .ok := rfl
  have hanswers : Answered turns fun place => .ok (sampleReplies.getD place (.final "")) := by
    intro place turn hturn
    have hplace : (turns.map (·.answer))[place]? = some turn.answer := by
      rw [List.getElem?_map, hturn, Option.map_some]
    rw [hturns] at hplace
    match place, hplace with
    | 0, hplace => exact (Option.some.inj hplace).symm
    | 1, hplace => exact (Option.some.inj hplace).symm
  have hends := (hcounts _ hanswers).1 1 (by decide) (.ok "noon") ?_ rfl
  · exact ⟨hstate, turns, outcome, hrecorded, hends.1, hends.2⟩
  · intro before hbefore
    obtain rfl : before = 0 := by omega
    rfl

end Client

end Toolbench
