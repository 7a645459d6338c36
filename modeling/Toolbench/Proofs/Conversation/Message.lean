import Toolbench.Conversation.Message
import Toolbench.Proofs.Json.Fitting
import Toolbench.Proofs.Stopping

/-!
# Messages that have travelled

A message is read from its text as it was written, without the marks of the calls that cannot be
run: these do not travel. So the text of a message says all of it but the marks.
-/

namespace Toolbench

namespace Json.Decoder

theorem list_map {α β : Type} {decoder : Decoder β} {encode : α → Json} {image : α → β}
    (hdecode : ∀ item, decoder (encode item) = .ok (image item)) (items : List α) :
    list decoder (.array (items.map encode)) = .ok (items.map image) := by
  change (items.map encode).mapM decoder = _
  rw [List.mapM_map]
  exact mapM_eq_pure fun item _ => hdecode item

end Json.Decoder

namespace ToolCall

/-! ## Calls -/

/-- The call without the reason why it cannot be run. -/
def unmarked (call : ToolCall) : ToolCall :=
  { call with malformed := none }

theorem toJson_unmarked (call : ToolCall) : call.unmarked.toJson = call.toJson :=
  rfl

theorem decode_toJson (call : ToolCall) : decode call.toJson = .ok call.unmarked :=
  rfl

theorem ordered_toJson (call : ToolCall) :
    call.toJson.ordered = .object [
      ("function", .object [
        ("arguments", .string call.arguments),
        ("name", .string call.name)]),
      ("id", .string call.id),
      ("type", .string call.type)] := by
  have hfunction : Json.Members.ofList
      [("name", .string call.name), ("arguments", .string call.arguments)] =
        [("arguments", .string call.arguments), ("name", .string call.name)] := by
    have hkeys : ["arguments", "name"].Pairwise (· < ·) := by
      decide
    exact Json.Members.ofList_eq_of_perm (List.Perm.swap _ _ _)
      (Json.Members.ordered_of_sublist hkeys (List.Sublist.refl _))
  change Json.object (Json.Members.ofList [("id", .string call.id), ("type", .string call.type),
    ("function", .object (Json.Members.ofList
      [("name", .string call.name), ("arguments", .string call.arguments)]))]) = _
  have hkeys : ["function", "id", "type"].Pairwise (· < ·) := by
    decide
  rw [hfunction]
  refine congrArg Json.object (Json.Members.ofList_eq_of_perm ?_
    (Json.Members.ordered_of_sublist hkeys (List.Sublist.refl _)))
  exact (List.Perm.cons _ (List.Perm.swap _ _ _)).trans (List.Perm.swap _ _ _)

theorem decode_ordered_toJson (call : ToolCall) :
    decode call.toJson.ordered = .ok call.unmarked := by
  rw [ordered_toJson]
  rfl

theorem floats_toJson (call : ToolCall) : call.toJson.floats = [] :=
  rfl

theorem nesting_toJson (call : ToolCall) : call.toJson.nesting = 2 :=
  rfl

end ToolCall

namespace Message

open Json.Decoder

/-! ## Members that may be left out -/

section Members

variable {α : Type} {key : String} {value : Option α} {encode : α → Json}

theorem forall_mem_member_iff {p : String × Json → Prop} :
    (∀ entry ∈ member key value encode, p entry) ↔ ∀ found ∈ value, p (key, encode found) := by
  cases value <;> simp [member]

theorem orderedMembers_member :
    Json.orderedMembers (member key value encode) =
      member key value fun found => (encode found).ordered := by
  cases value <;> rfl

theorem keys_member_sublist : ((member key value encode).map Prod.fst).Sublist [key] := by
  cases value with
  | none => exact List.nil_sublist _
  | some found => exact List.Sublist.refl _

/-- A member that was left out leaves what has been read as it is. -/
theorem recordMembers_member {σ : Type} {kind : RecordKind} {read : String → σ → Json.Decoder σ}
    {state : σ} (next : σ) (rest : Json.Members) (hknown : kind.fields.contains key = true)
    (hnone : value = none → next = state)
    (hsome : ∀ found, value = some found → read key state (encode found) = .ok next) :
    recordMembers kind read state (member key value encode ++ rest) =
      recordMembers kind read next rest := by
  cases value with
  | none =>
      rw [hnone rfl]
      rfl
  | some found =>
      change (if kind.fields.contains key then
        read key state (encode found) >>= fun state => recordMembers kind read state rest
        else recordMembers kind read state rest) = _
      rw [if_pos hknown, hsome found rfl]
      rfl

end Members

/-! ## Messages -/

/-- The message without the marks of the calls that cannot be run. -/
def unmarked (message : Message) : Message :=
  { message with toolCalls := message.toolCalls.map (·.map ToolCall.unmarked) }

theorem toJson_unmarked (message : Message) : message.unmarked.toJson = message.toJson := by
  obtain ⟨role, content, toolCalls, toolCallId⟩ := message
  cases toolCalls with
  | none => rfl
  | some calls =>
      have hcalls : (calls.map ToolCall.unmarked).map ToolCall.toJson =
          calls.map ToolCall.toJson := by
        rw [List.map_map]
        exact List.map_congr_left fun call _ => call.toJson_unmarked
      simp only [toJson, unmarked, Option.map_some, member, hcalls]

/-- The fields of a message as a record. -/
def kind : RecordKind :=
  ⟨"struct Message", ["role", "content", "tool_calls", "tool_call_id"], []⟩

theorem decode_object {message : Message} {members : Json.Members}
    (hread : recordMembers kind field {} members = .ok {
      role := some message.role
      content := message.content
      toolCalls := message.toolCalls
      toolCallId := message.toolCallId }) :
    decode (.object members) = .ok message := by
  change (recordMembers kind field {} members >>= fun fields =>
    demanded "role" fields.role >>= fun role =>
      Except.ok ({ fields with role } : Message)) = _
  rw [hread]
  rfl

/-- The fields of a message in the order in which they are declared. -/
def declared (encode : ToolCall → Json) (message : Message) : Json.Members :=
  ("role", .string message.role.name) ::
    member "content" message.content .string ++
    member "tool_calls" message.toolCalls (fun calls => .array (calls.map encode)) ++
    member "tool_call_id" message.toolCallId .string

/-- The fields of a message in the order of their names. -/
def sorted (encode : ToolCall → Json) (message : Message) : Json.Members :=
  member "content" message.content .string ++
    ("role", .string message.role.name) ::
    member "tool_call_id" message.toolCallId .string ++
    member "tool_calls" message.toolCalls (fun calls => .array (calls.map encode))

theorem toJson_eq (message : Message) :
    message.toJson = .object (message.declared ToolCall.toJson) :=
  rfl

theorem ordered_sorted (encode : ToolCall → Json) (message : Message) :
    Json.Members.Ordered (message.sorted encode) := by
  have hkeys : ["content", "role", "tool_call_id", "tool_calls"].Pairwise (· < ·) := by
    decide
  apply Json.Members.ordered_of_sublist hkeys
  rw [sorted, List.map_append, List.map_append, List.map_cons]
  exact (keys_member_sublist.append (keys_member_sublist.cons_cons "role")).append
    keys_member_sublist

theorem declared_perm_sorted (encode : ToolCall → Json) (message : Message) :
    (message.declared encode).Perm (message.sorted encode) := by
  unfold declared sorted
  generalize member "content" message.content .string = content
  generalize member "tool_call_id" message.toolCallId .string = toolCallId
  generalize member "tool_calls" message.toolCalls _ = toolCalls
  rw [List.append_assoc, List.append_assoc]
  refine List.Perm.trans ?_ List.perm_middle.symm
  exact List.Perm.cons _ (List.Perm.append_left _ List.perm_append_comm)

theorem ordered_toJson (message : Message) :
    message.toJson.ordered = .object (message.sorted fun call => call.toJson.ordered) := by
  have hmembers : Json.orderedMembers (message.declared ToolCall.toJson) =
      message.declared fun call => call.toJson.ordered := by
    simp only [declared, Json.orderedMembers_append, Json.orderedMembers, orderedMembers_member,
      Json.ordered, Json.orderedItems_eq_map, List.map_map, List.cons_append]
    rfl
  rw [toJson_eq, Json.ordered, hmembers,
    Json.Members.ofList_eq_of_perm (declared_perm_sorted _ _) (ordered_sorted _ _)]

/-! ## Reading -/

theorem recordMembers_role (fields : Fields) (role : Role) (rest : Json.Members) :
    recordMembers kind field fields (("role", .string role.name) :: rest) =
      recordMembers kind field { fields with role := some role } rest := by
  cases role <;> rfl

theorem recordMembers_content {fields : Fields} (hunread : fields.content = none)
    (content : Option String) (rest : Json.Members) :
    recordMembers kind field fields (member "content" content .string ++ rest) =
      recordMembers kind field { fields with content } rest := by
  refine recordMembers_member _ rest rfl ?_ ?_
  · rintro rfl
    rw [← hunread]
  · rintro text rfl
    rfl

theorem recordMembers_toolCallId {fields : Fields} (hunread : fields.toolCallId = none)
    (toolCallId : Option String) (rest : Json.Members) :
    recordMembers kind field fields (member "tool_call_id" toolCallId .string ++ rest) =
      recordMembers kind field { fields with toolCallId } rest := by
  refine recordMembers_member _ rest rfl ?_ ?_
  · rintro rfl
    rw [← hunread]
  · rintro text rfl
    rfl

section Calls

variable {encode : ToolCall → Json}
  (hencode : ∀ call, ToolCall.decode (encode call) = .ok call.unmarked)
include hencode

theorem recordMembers_toolCalls {fields : Fields} (hunread : fields.toolCalls = none)
    (toolCalls : Option (List ToolCall)) (rest : Json.Members) :
    recordMembers kind field fields
        (member "tool_calls" toolCalls (fun calls => .array (calls.map encode)) ++ rest) =
      recordMembers kind field
        { fields with toolCalls := toolCalls.map (·.map ToolCall.unmarked) } rest := by
  refine recordMembers_member _ rest rfl ?_ ?_
  · rintro rfl
    rw [Option.map_none, ← hunread]
  · rintro calls rfl
    change ((list ToolCall.decode (.array (calls.map encode))).map some >>= fun toolCalls =>
      Except.ok { fields with toolCalls }) = _
    rw [list_map hencode]
    rfl

theorem decode_declared (message : Message) :
    decode (.object (message.declared encode)) = .ok message.unmarked := by
  apply decode_object
  rw [declared, List.append_assoc, List.cons_append, recordMembers_role,
    recordMembers_content rfl, recordMembers_toolCalls hencode rfl,
    ← List.append_nil (member "tool_call_id" _ _), recordMembers_toolCallId rfl]
  rfl

theorem decode_sorted (message : Message) :
    decode (.object (message.sorted encode)) = .ok message.unmarked := by
  apply decode_object
  rw [sorted, List.append_assoc, recordMembers_content rfl, List.cons_append, recordMembers_role,
    recordMembers_toolCallId rfl, ← List.append_nil (member "tool_calls" _ _),
    recordMembers_toolCalls hencode rfl]
  rfl

end Calls

/-! ## Texts of messages -/

theorem forall_mem_declared_iff {encode : ToolCall → Json} {p : String × Json → Prop}
    (message : Message) :
    (∀ entry ∈ message.declared encode, p entry) ↔
      p ("role", .string message.role.name) ∧
      (∀ text ∈ message.content, p ("content", .string text)) ∧
      (∀ calls ∈ message.toolCalls, p ("tool_calls", .array (calls.map encode))) ∧
      ∀ id ∈ message.toolCallId, p ("tool_call_id", .string id) := by
  simp only [declared, List.cons_append, List.append_assoc, List.forall_mem_cons,
    List.forall_mem_append, forall_mem_member_iff]

theorem floats_toJson (message : Message) : message.toJson.floats = [] := by
  rw [toJson_eq, Json.floats, Json.floatsOfMembers_eq_nil_iff, forall_mem_declared_iff]
  refine ⟨rfl, fun _ _ => rfl, fun calls _ => ?_, fun _ _ => rfl⟩
  rw [Json.floats, Json.floatsOfItems_eq_nil_iff, List.forall_mem_map]
  exact fun call _ => call.floats_toJson

theorem nesting_toJson (message : Message) : message.toJson.nesting < Json.maxDepth := by
  have hmembers : Json.nestingMembers (message.declared ToolCall.toJson) < 4 := by
    rw [Json.nestingMembers_lt_iff _ (by decide), forall_mem_declared_iff]
    have htext : ∀ text, Json.nesting (.string text) < 4 := fun _ => Nat.zero_lt_succ 3
    refine ⟨htext _, fun _ _ => htext _, fun calls _ => ?_, fun _ _ => htext _⟩
    have hcalls : Json.nestingItems (calls.map ToolCall.toJson) < 3 := by
      rw [Json.nestingItems_lt_iff _ (by decide), List.forall_mem_map]
      intro call _
      rw [call.nesting_toJson]
      decide
    exact Nat.succ_lt_succ hcalls
  rw [toJson_eq, Json.nesting]
  exact Nat.lt_of_le_of_lt hmembers (by decide)

theorem parse_write_toJson (message : Message) :
    Json.parse message.toJson.write = .ok message.toJson.ordered :=
  Json.parse_write_of_floats_eq_nil message.floats_toJson message.nesting_toJson

/-- A message is read from its text without the marks of its calls and otherwise as it was,
and two messages have one text exactly if they do not differ in more than these marks. -/
theorem decode_written (message : Message) :
    (∃ value, Json.parse message.toJson.write = .ok value ∧
      decode value = .ok message.unmarked) ∧
    decode message.toJson = .ok message.unmarked ∧
    ∀ other : Message, message.toJson.write = other.toJson.write ↔
      message.unmarked = other.unmarked := by
  have hread : ∀ other : Message, decode other.toJson.ordered = .ok other.unmarked := by
    intro other
    rw [ordered_toJson]
    exact decode_sorted ToolCall.decode_ordered_toJson other
  refine ⟨⟨_, message.parse_write_toJson, hread message⟩,
    decode_declared ToolCall.decode_toJson message, fun other => ⟨fun hsame => ?_, fun hsame => ?_⟩⟩
  · have hordered : message.toJson.ordered = other.toJson.ordered := by
      apply Except.ok.inj (ε := Json.SyntaxError)
      rw [← parse_write_toJson, ← parse_write_toJson, hsame]
    apply Except.ok.inj (ε := Decode.Mismatch)
    rw [← hread, ← hread, hordered]
  · rw [← toJson_unmarked message, ← toJson_unmarked other, hsame]

end Message

end Toolbench
