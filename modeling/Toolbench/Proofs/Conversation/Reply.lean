import Toolbench.Conversation.Dispatch
import Toolbench.Conversation.Reply
import Toolbench.Proofs.Json.Fitting

/-!
# Calls of replies

Every element of the calls in the body of a completion becomes one call, whatever it is. The call
is marked as one that cannot be run unless the element has an identifier, a function with a name,
and arguments that are an object, the text of one, or missing. Of an object the call holds a text
that is read as this object.
-/

namespace Toolbench

open Json

/-! ## Elements of calls -/

namespace Reply

/-- The identifier that an element supplies: a text that is not empty. -/
def suppliedId? (element : Json) : Option String :=
  match element.get? "id" with
  | some (.string id) => if id = "" then none else some id
  | _ => none

/-- An element that asks for the call of a function. -/
structure Asks (element : Json) (id name : String) (arguments : Option Json) : Prop where
  id : suppliedId? element = some id
  function : ∃ function, element.get? "function" = some function ∧
    function.get? "name" = some (.string name) ∧ function.get? "arguments" = arguments
  named : name ≠ ""

/-- What the arguments of a call may be. -/
inductive AreArguments : Option Json → Prop
  | missing : AreArguments none
  | null : AreArguments (some .null)
  | text (text : String) : AreArguments (some (.string text))
  | object (members : Members) : AreArguments (some (.object members))

theorem nonEmptyText?_eq_some_iff (value : Option Json) (text : String) :
    nonEmptyText? value = some text ↔ value = some (.string text) ∧ text ≠ "" := by
  unfold nonEmptyText?
  constructor
  · intro htext
    obtain ⟨found, hnonempty⟩ := Option.filter_eq_some_iff.mp htext
    obtain ⟨json, rfl, hstring⟩ := Option.bind_eq_some_iff.mp found
    cases json <;> simp [Json.string?] at hstring
    exact ⟨by rw [hstring], by simpa using hnonempty⟩
  · rintro ⟨rfl, hnonempty⟩
    simp [Json.string?, hnonempty]

theorem suppliedId?_eq (element : Json) :
    suppliedId? element = nonEmptyText? (element.get? "id") := by
  unfold suppliedId? nonEmptyText?
  cases element.get? "id" with
  | none => rfl
  | some value =>
      cases value with
      | string id => by_cases hid : id = "" <;> simp [Json.string?, hid, Option.filter]
      | _ => rfl

/-- The call that an element with these arguments becomes. -/
def callWith (id name : String) : Option Json → ToolCall
  | none | some .null => { id, name }
  | some (.string arguments) => { id, name, arguments }
  | some (.object members) => { id, name, arguments := (Json.object members).write }
  | some other =>
      { id, name, malformed := some ("arguments must be a JSON object, got " ++ other.write) }

theorem callOf_of_asks {element : Json} {id name : String} {arguments : Option Json}
    (hasks : Asks element id name arguments) (position : Nat) :
    callOf position element = callWith id name arguments := by
  obtain ⟨function, hfunction, hname, harguments⟩ := hasks.function
  have hid := hasks.id
  have hnamed : nonEmptyText? (function.get? "name") = some name :=
    (nonEmptyText?_eq_some_iff _ _).mpr ⟨hname, hasks.named⟩
  rw [suppliedId?_eq] at hid
  unfold callOf
  simp only [hid, hfunction, hnamed, harguments]
  rfl

theorem callOf_id (position : Nat) (element : Json) :
    (callOf position element).id = (suppliedId? element).getD (missingId position) := by
  rw [suppliedId?_eq]
  unfold callOf
  split
  · rename_i hid
    rw [hid]
    rfl
  · rename_i id hid
    rw [hid]
    split
    · rfl
    · split
      · rfl
      · split <;> rfl

theorem asks_or_malformed (position : Nat) (element : Json) :
    (∃ id name arguments, Asks element id name arguments) ∨
      (callOf position element).malformed ≠ none := by
  unfold callOf
  split
  · exact Or.inr (by simp)
  · rename_i id hid
    split
    · exact Or.inr (by simp)
    · rename_i function hfunction
      split
      · exact Or.inr (by simp)
      · rename_i name hname
        rw [nonEmptyText?_eq_some_iff] at hname
        rw [← suppliedId?_eq] at hid
        exact Or.inl ⟨id, name, _, hid, ⟨function, hfunction, hname.1, rfl⟩, hname.2⟩

theorem callWith_name (id name : String) (arguments : Option Json) :
    (callWith id name arguments).name = name := by
  unfold callWith
  split <;> rfl

theorem callWith_malformed_iff (id name : String) (arguments : Option Json) :
    (callWith id name arguments).malformed = none ↔ AreArguments arguments := by
  constructor
  · intro hnone
    cases arguments with
    | none => exact .missing
    | some value =>
        cases value with
        | null => exact .null
        | string text => exact .text text
        | object members => exact .object members
        | _ => cases hnone
  · intro harguments
    cases harguments <;> rfl

theorem callOf_malformed_iff (position : Nat) (element : Json) :
    (callOf position element).malformed = none ↔
      ∃ id name arguments, Asks element id name arguments ∧ AreArguments arguments := by
  constructor
  · intro hnone
    rcases asks_or_malformed position element with ⟨id, name, arguments, hasks⟩ | hmalformed
    · rw [callOf_of_asks hasks, callWith_malformed_iff] at hnone
      exact ⟨id, name, arguments, hasks, hnone⟩
    · exact absurd hnone hmalformed
  · rintro ⟨id, name, arguments, hasks, harguments⟩
    rw [callOf_of_asks hasks, callWith_malformed_iff]
    exact harguments

/-! ## Arguments -/

/-- The text of an object that is read back is an argument text of this object. -/
theorem parseArguments_of_parse {text : String} {value : Json} (hparse : parse text = .ok value)
    (tool : String) : Dispatch.parseArguments tool text = .ok value := by
  unfold Dispatch.parseArguments
  rw [if_neg (by simp [not_isBlankText_of_parse hparse]), hparse]

theorem resolve_congr {first second : ToolCall} (hname : first.name = second.name)
    (hmalformed : first.malformed = second.malformed)
    (harguments : Dispatch.parseArguments first.name first.arguments =
      Dispatch.parseArguments second.name second.arguments) (catalog : Catalog) :
    Dispatch.resolve catalog first = Dispatch.resolve catalog second := by
  unfold Dispatch.resolve
  rw [hmalformed, harguments, hname]

/-! ## Identifiers -/

theorem missingId_injective {first second : Nat} (hsame : missingId first = missingId second) :
    first = second := by
  have hchars := congrArg String.toList hsame
  simp only [missingId, String.toList_append, List.append_cancel_left_eq,
    List.append_cancel_right_eq, Nat.toString_eq_repr, Nat.toList_repr] at hchars
  exact Decimal.digitChars_injective hchars

/-- Calls have different identifiers if those supplied are different, and none of them is one that
is given to a call without. -/
theorem nodup_ids {elements : List Json} (hsupplied : (elements.filterMap suppliedId?).Nodup)
    (hother : ∀ element ∈ elements, ∀ position, suppliedId? element ≠ some (missingId position)) :
    ((elements.mapIdx callOf).map (·.id)).Nodup := by
  rw [List.Nodup, List.pairwise_filterMap, List.pairwise_iff_getElem] at hsupplied
  rw [List.Nodup, List.pairwise_map, List.pairwise_iff_getElem]
  intro i j hi hj hij hsame
  rw [List.length_mapIdx] at hi hj
  rw [List.getElem_mapIdx, List.getElem_mapIdx, callOf_id, callOf_id] at hsame
  cases hfirst : suppliedId? elements[i] with
  | none =>
      cases hsecond : suppliedId? elements[j] with
      | none =>
          rw [hfirst, hsecond] at hsame
          exact absurd (missingId_injective hsame) (Nat.ne_of_lt hij)
      | some id =>
          rw [hfirst, hsecond] at hsame
          exact hother _ (List.getElem_mem hj) i (hsecond.trans (congrArg some hsame.symm))
  | some id =>
      cases hsecond : suppliedId? elements[j] with
      | none =>
          rw [hfirst, hsecond] at hsame
          exact hother _ (List.getElem_mem hi) j (hfirst.trans (congrArg some hsame))
      | some other =>
          rw [hfirst, hsecond] at hsame
          exact hsupplied i j hi hj hij id hfirst other hsecond hsame

/-! ## Bodies of completions -/

/-- A body in which there is no message. -/
inductive LacksMessage (body : Json) : Prop
  | noChoices (hnone : ∀ choices, body.get? "choices" ≠ some (.array choices))
  | emptyChoices (hempty : body.get? "choices" = some (.array []))
  | noMessage {first : Json} {rest : List Json}
      (hchoices : body.get? "choices" = some (.array (first :: rest)))
      (hnone : first.get? "message" = none)

/-- The message that the first choice of a body has. -/
def HasMessage (body message : Json) : Prop :=
  ∃ first rest, body.get? "choices" = some (.array (first :: rest)) ∧
    first.get? "message" = some message

theorem HasMessage.unique {body first second : Json} (hfirst : HasMessage body first)
    (hsecond : HasMessage body second) : first = second := by
  obtain ⟨choice, rest, hchoices, hmessage⟩ := hfirst
  obtain ⟨other, others, hother, hsame⟩ := hsecond
  rw [hchoices] at hother
  cases hother
  exact Option.some.inj (hmessage.symm.trans hsame)

theorem HasMessage.not_lacks {body message : Json} (hmessage : HasMessage body message) :
    ¬ LacksMessage body := by
  obtain ⟨first, rest, hchoices, hfirst⟩ := hmessage
  intro hlacks
  cases hlacks with
  | noChoices hnone => exact hnone _ hchoices
  | emptyChoices hempty =>
      rw [hchoices] at hempty
      cases hempty
  | noMessage hother hnone =>
      rw [hchoices] at hother
      cases hother
      rw [hfirst] at hnone
      cases hnone

/-- A body either lacks a message and is refused, or is what its message is. -/
theorem ofCompletion_cases (body : Json) :
    (LacksMessage body ∧ ∃ fault, ofCompletion body = .error fault) ∨
      ∃ message, HasMessage body message ∧ ofCompletion body = .ok (ofMessage message) := by
  unfold ofCompletion firstMessage
  cases hchoices : body.get? "choices" with
  | none => exact Or.inl ⟨.noChoices (by simp [hchoices]), _, rfl⟩
  | some value =>
      cases value with
      | array choices =>
          cases choices with
          | nil => exact Or.inl ⟨.emptyChoices hchoices, _, rfl⟩
          | cons first rest =>
              simp only [Option.bind_some, Json.items?]
              cases hmessage : first.get? "message" with
              | none => exact Or.inl ⟨.noMessage hchoices hmessage, _, rfl⟩
              | some message => exact Or.inr ⟨message, ⟨first, rest, hchoices, hmessage⟩, rfl⟩
      | _ => exact Or.inl ⟨.noChoices (by simp [hchoices]), _, rfl⟩

theorem ofCompletion_eq {body message : Json} (hmessage : HasMessage body message) :
    ofCompletion body = .ok (ofMessage message) := by
  rcases ofCompletion_cases body with ⟨hlacks, -⟩ | ⟨other, hother, hok⟩
  · exact absurd hlacks hmessage.not_lacks
  · rw [hok, hother.unique hmessage]

theorem callsOf_eq_some_iff (message : Json) (calls : List ToolCall) :
    callsOf message = some calls ↔
      ∃ elements, message.get? "tool_calls" = some (.array elements) ∧ elements ≠ [] ∧
        calls = elements.mapIdx callOf := by
  unfold callsOf
  constructor
  · intro hcalls
    split at hcalls
    · rename_i first rest helements
      exact ⟨first :: rest, helements, List.cons_ne_nil _ _, (Option.some.inj hcalls).symm⟩
    · cases hcalls
  · rintro ⟨elements, helements, hnonempty, rfl⟩
    obtain ⟨first, rest, rfl⟩ := List.exists_cons_of_ne_nil hnonempty
    rw [helements]

theorem ofMessage_eq_calls_iff (message : Json) (content : Option String)
    (calls : List ToolCall) :
    ofMessage message = .calls content calls ↔
      content = contentOf message ∧ callsOf message = some calls := by
  unfold ofMessage
  cases callsOf message with
  | none => simp
  | some asked =>
      simp only [Reply.calls.injEq, Option.some.injEq]
      exact and_congr_left' eq_comm

/-- The arguments of a call in a body that was read fit as the body does. -/
theorem Asks.fits {depth : Nat} {element : Json} {id name : String} {arguments : Json}
    (hasks : Asks element id name (some arguments)) (hfits : Fits depth element) :
    Fits depth arguments := by
  obtain ⟨function, hfunction, -, harguments⟩ := hasks.function
  exact (hfits.get? hfunction).get? harguments

theorem HasMessage.fits {depth : Nat} {body message : Json} (hmessage : HasMessage body message)
    (hfits : Fits depth body) : Fits depth message := by
  obtain ⟨first, rest, hchoices, hfirst⟩ := hmessage
  exact ((hfits.get? hchoices).item List.mem_cons_self).get? hfirst

/-- What a call holds of the element that it stands for. -/
structure Represents (body : Json) (position : Nat) (element : Json) (call : ToolCall) : Prop where
  id : call.id = (suppliedId? element).getD (missingId position)
  runnable : call.malformed = none ↔
    ∃ id name arguments, Asks element id name arguments ∧ AreArguments arguments
  given : ∀ id name arguments, Asks element id name arguments → call.name = name ∧
    (arguments = none ∨ arguments = some .null → call.arguments = "") ∧
    ∀ text, arguments = some (.string text) → call.arguments = text
  /-- The text of the same object may be sent in its place. -/
  object : ∀ id name members, Asks element id name (some (.object members)) →
    Fits maxDepth (.object members) ∨ (∃ text, parse text = .ok body) →
    (∀ x ∈ floats (.object members), x.RoundTrips) →
      Dispatch.parseArguments call.name call.arguments = .ok (.object members) ∧
      ∀ other text, Asks other id name (some (.string text)) → parse text = .ok (.object members) →
        ∀ catalog, Dispatch.resolve catalog (callOf position other) =
          Dispatch.resolve catalog call

theorem represents_callOf {body message : Json} {elements : List Json} {position : Nat}
    {element : Json} (hmessage : HasMessage body message)
    (helements : message.get? "tool_calls" = some (.array elements))
    (helement : element ∈ elements) :
    Represents body position element (callOf position element) where
  id := callOf_id position element
  runnable := callOf_malformed_iff position element
  given := by
    intro id name arguments hasks
    rw [callOf_of_asks hasks]
    refine ⟨callWith_name id name arguments, ?_, ?_⟩
    · rintro (rfl | rfl)
      · rfl
      · rfl
    · rintro text rfl
      rfl
  object := by
    intro id name members hasks hread hfloats
    have hfits : Fits maxDepth (.object members) := by
      rcases hread with hfits | ⟨text, hparse⟩
      · exact hfits
      · have hbody := hmessage.fits (fits_of_parse hparse)
        exact hasks.fits ((hbody.get? helements).item helement)
    have hwritten := parse_write_of_fits hfits hfloats
    rw [callOf_of_asks hasks]
    refine ⟨parseArguments_of_parse hwritten name, fun other text hother htext catalog => ?_⟩
    rw [callOf_of_asks hother]
    refine resolve_congr ?_ ?_ ?_ catalog
    · rfl
    · rfl
    · exact (parseArguments_of_parse htext name).trans (parseArguments_of_parse hwritten name).symm

/-- A body without a message is refused. Otherwise it is one call for each element of a list of
calls that is not empty, each made of its own element and its position only. -/
theorem ofCompletion_spec (body : Json) :
    ((∃ fault, ofCompletion body = .error fault) ↔ LacksMessage body) ∧
      ((∃ reply, ofCompletion body = .ok reply) ↔ ∃ message, HasMessage body message) ∧
      ∀ message, HasMessage body message →
        ((∃ content calls, ofCompletion body = .ok (.calls content calls)) ↔
          ∃ elements, message.get? "tool_calls" = some (.array elements) ∧ elements ≠ []) ∧
        ∀ content calls, ofCompletion body = .ok (.calls content calls) →
          ∃ elements, message.get? "tool_calls" = some (.array elements) ∧
            calls = elements.mapIdx callOf ∧
            (∀ position element, elements[position]? = some element →
              Represents body position element (callOf position element)) ∧
            ((elements.filterMap suppliedId?).Nodup →
              (∀ element ∈ elements, ∀ position,
                suppliedId? element ≠ some (missingId position)) →
              (calls.map (·.id)).Nodup) := by
  refine ⟨?_, ?_, ?_⟩
  · rcases ofCompletion_cases body with ⟨hlacks, hfault⟩ | ⟨message, hmessage, hok⟩
    · exact iff_of_true hfault hlacks
    · exact iff_of_false (by simp [hok]) hmessage.not_lacks
  · rcases ofCompletion_cases body with ⟨hlacks, fault, hfault⟩ | ⟨message, hmessage, hok⟩
    · exact iff_of_false (by simp [hfault]) fun ⟨message, hmessage⟩ => hmessage.not_lacks hlacks
    · exact iff_of_true ⟨_, hok⟩ ⟨message, hmessage⟩
  · intro message hmessage
    have hcalls : ∀ content calls, ofCompletion body = .ok (.calls content calls) ↔
        content = contentOf message ∧ callsOf message = some calls := by
      intro content calls
      rw [ofCompletion_eq hmessage, Except.ok.injEq, ofMessage_eq_calls_iff]
    constructor
    · constructor
      · rintro ⟨content, calls, hok⟩
        obtain ⟨elements, helements, hnonempty, -⟩ :=
          (callsOf_eq_some_iff message calls).mp ((hcalls content calls).mp hok).2
        exact ⟨elements, helements, hnonempty⟩
      · rintro ⟨elements, helements, hnonempty⟩
        exact ⟨_, _, (hcalls _ _).mpr
          ⟨rfl, (callsOf_eq_some_iff message _).mpr ⟨elements, helements, hnonempty, rfl⟩⟩⟩
    · intro content calls hok
      obtain ⟨elements, helements, -, rfl⟩ :=
        (callsOf_eq_some_iff message calls).mp ((hcalls content calls).mp hok).2
      refine ⟨elements, helements, rfl, ?_, nodup_ids⟩
      intro position element helement
      exact represents_callOf hmessage helements (List.mem_of_getElem? helement)

def half : Binary64 :=
  ⟨false, 2 ^ 52, -53, by decide⟩

/-- A call with an object for its arguments, one with an empty identifier, and no call at all. -/
def mixedElements : List Json := [
  .object [
    ("function", .object [
      ("arguments", .object [("x", .number (.real half))]),
      ("name", .string "f")]),
    ("id", .string "a")],
  .object [("id", .string "")],
  .null]

def mixedMessage : Json :=
  .object [("tool_calls", .array mixedElements)]

def mixedBody : Json :=
  .object [("choices", .array [.object [("message", mixedMessage)]])]

/-- All three elements become calls with identifiers of their own, and the object is read back. -/
theorem ofCompletion_spec_mixed :
    ∃ content calls, ofCompletion mixedBody = .ok (.calls content calls) ∧
      calls.length = 3 ∧ (calls.map (·.id)).Nodup ∧
      Dispatch.parseArguments (callOf 0 mixedElements[0]).name
        (callOf 0 mixedElements[0]).arguments = .ok (.object [("x", .number (.real half))]) := by
  have hmessage : HasMessage mixedBody mixedMessage := ⟨_, [], rfl, rfl⟩
  obtain ⟨-, -, hspec⟩ := ofCompletion_spec mixedBody
  obtain ⟨hcalls, heach⟩ := hspec mixedMessage hmessage
  obtain ⟨content, calls, hok⟩ := hcalls.mpr ⟨mixedElements, rfl, List.cons_ne_nil _ _⟩
  obtain ⟨elements, helements, rfl, hrepresents, hnodup⟩ := heach content calls hok
  obtain rfl : mixedElements = elements := Json.array.inj (Option.some.inj helements)
  have hsupplied : mixedElements.filterMap suppliedId? = ["a"] := rfl
  have hother : ∀ element ∈ mixedElements, ∀ position,
      suppliedId? element ≠ some (missingId position) := by
    intro element helement position hsame
    have hmem : missingId position ∈ mixedElements.filterMap suppliedId? :=
      List.mem_filterMap.mpr ⟨element, helement, hsame⟩
    rw [hsupplied, List.mem_singleton] at hmem
    have hchars := congrArg String.toList hmem
    simp [missingId] at hchars
  refine ⟨content, _, hok, rfl, hnodup (by rw [hsupplied]; decide) hother, ?_⟩
  have hasks : Asks mixedElements[0] "a" "f" (some (.object [("x", .number (.real half))])) :=
    ⟨rfl, ⟨_, rfl, rfl, rfl⟩, by decide⟩
  refine ((hrepresents 0 mixedElements[0] rfl).object _ _ _ hasks (Or.inl ⟨?_, rfl⟩) ?_).1
  · decide
  · intro x hx
    obtain rfl : x = half := List.mem_singleton.mp hx
    decide +kernel

end Reply

end Toolbench
