import Mathlib.Data.List.Forall2
import Mathlib.Data.List.ReduceOption
import Toolbench.Conversation.Dispatch

/-!
# Results stand where their calls stood

The calls of a reply are completed in an arbitrary order.  What is carried through that
order is which slots hold the result of their call; once every place had its turn, the
slots are the results call by call.
-/

namespace Toolbench

namespace Dispatch

open Adapter

variable {ω : Type}

/-- A message that answers a call. -/
def Answers (call : ToolCall) (message : Message) : Prop :=
  ∃ content, message = .toolResult call.id content

/-- The slots of calls of which those at the given places are completed: each holds a message that
is related to its call. -/
structure Filled (related : ToolCall → Message → Prop) (calls : List ToolCall) (done : List Nat)
    (slots : List (Option Message)) : Prop where
  length_eq : slots.length = calls.length
  answered : ∀ place ∈ done, ∀ call, calls[place]? = some call →
    ∃ message, slots[place]? = some (some message) ∧ related call message

theorem answers_answer (host : Host ω) (setting : Setting) (catalog : ω → Catalog)
    (call : ToolCall) (world : ω) :
    Answers call ((answer host setting catalog call).run world).1 :=
  ⟨_, rfl⟩

theorem role_of_answers {calls : List ToolCall} {messages : List Message}
    (h : List.Forall₂ Answers calls messages) : ∀ message ∈ messages, message.role = .tool := by
  induction h with
  | nil => simp
  | cons hhead _ ih =>
      obtain ⟨content, rfl⟩ := hhead
      exact List.forall_mem_cons.mpr ⟨rfl, ih⟩

section

variable {related : ToolCall → Message → Prop}

theorem filled_empty (calls : List ToolCall) :
    Filled related calls [] (List.replicate calls.length none) :=
  ⟨List.length_replicate, by simp⟩

/-- Completing one more call leaves the results of the others in their slots. -/
theorem Filled.set {calls : List ToolCall} {done : List Nat} {slots : List (Option Message)}
    {place : Nat} {call : ToolCall} {message : Message} (h : Filled related calls done slots)
    (hcall : calls[place]? = some call) (hanswer : related call message) :
    Filled related calls (place :: done) (slots.set place (some message)) := by
  refine ⟨by rw [List.length_set, h.length_eq], ?_⟩
  intro other hother otherCall hotherCall
  by_cases hplace : other = place
  · subst hplace
    have hlt : other < slots.length := by
      rw [h.length_eq]
      exact (List.getElem?_eq_some_iff.mp hcall).1
    rw [hcall, Option.some.injEq] at hotherCall
    subst hotherCall
    exact ⟨message, by rw [List.getElem?_set_self hlt], hanswer⟩
  · have hmem : other ∈ done := (List.mem_cons.mp hother).resolve_left hplace
    obtain ⟨found, hfound, hanswers⟩ := h.answered other hmem otherCall hotherCall
    exact ⟨found, by rw [List.getElem?_set_ne (Ne.symm hplace), hfound], hanswers⟩

/-- A place without a call asks for nothing. -/
theorem Filled.skip {calls : List ToolCall} {done : List Nat} {slots : List (Option Message)}
    {place : Nat} (h : Filled related calls done slots) (hnone : calls[place]? = none) :
    Filled related calls (place :: done) slots := by
  refine ⟨h.length_eq, ?_⟩
  intro other hother call hcall
  rcases List.mem_cons.mp hother with rfl | hmem
  · rw [hnone] at hcall
    contradiction
  · exact h.answered other hmem call hcall

theorem fillSlots_filled (host : Host ω) (setting : Setting) (catalog : ω → Catalog)
    {calls : List ToolCall} {done : List Nat} {slots : List (Option Message)}
    (hanswer : ∀ call world, related call ((answer host setting catalog call).run world).1)
    (places : List Nat) (world : ω) (h : Filled related calls done slots) :
    Filled related calls (places.reverse ++ done)
      ((fillSlots host setting catalog calls places slots).run world).1 := by
  induction places generalizing done slots world with
  | nil => exact h
  | cons place rest ih =>
      rw [List.reverse_cons, List.append_assoc, List.singleton_append, fillSlots]
      cases hcall : calls[place]? with
      | none => exact ih world (h.skip hcall)
      | some call =>
          exact ih _ (h.set hcall (hanswer call world))

/-- Slots of which every one is filled hold the results call by call. -/
theorem Filled.forall₂ {calls : List ToolCall} {done : List Nat}
    {slots : List (Option Message)} (h : Filled related calls done slots)
    (hall : ∀ place < calls.length, place ∈ done) :
    List.Forall₂ related calls slots.reduceOption := by
  have hslots : List.Forall₂ (fun call slot => ∃ message, slot = some message ∧
      related call message) calls slots := by
    rw [List.forall₂_iff_get]
    refine ⟨h.length_eq.symm, ?_⟩
    intro place hcalls hslot
    obtain ⟨message, hmessage, hanswers⟩ :=
      h.answered place (hall place hcalls) calls[place] (List.getElem?_eq_getElem hcalls)
    rw [List.getElem?_eq_getElem hslot, Option.some.injEq] at hmessage
    exact ⟨message, hmessage, hanswers⟩
  clear h hall
  induction hslots with
  | nil => exact .nil
  | cons hhead _ ih =>
      obtain ⟨message, rfl, hanswers⟩ := hhead
      rw [List.reduceOption_cons_of_some]
      exact .cons hanswers ih

/-- In whatever order calls are completed, what holds of the answer to each call holds of the
results in the order of the calls. -/
theorem forall₂_answers (host : Host ω) (setting : Setting) (catalog : ω → Catalog)
    (hanswer : ∀ call world, related call ((answer host setting catalog call).run world).1)
    (calls : List ToolCall) (completion : Completion calls.length) (world : ω) :
    List.Forall₂ related calls
      ((answers host setting catalog calls completion).run world).1 := by
  have h := fillSlots_filled host setting catalog hanswer completion.places world
    (filled_empty calls)
  refine h.forall₂ fun place hplace => ?_
  have hmem : place ∈ completion.places :=
    completion.everyPlace.mem_iff.mpr (List.mem_range.mpr hplace)
  simpa using hmem

end

/-- In whatever order calls are completed, their results come back in the order of the calls. -/
theorem answers_forall₂ (host : Host ω) (setting : Setting) (catalog : ω → Catalog)
    (calls : List ToolCall) (completion : Completion calls.length) (world : ω) :
    List.Forall₂ Answers calls
      ((answers host setting catalog calls completion).run world).1 :=
  forall₂_answers host setting catalog (answers_answer host setting catalog) calls completion
    world

end Dispatch

end Toolbench
