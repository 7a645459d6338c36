import Toolbench.Proofs.Json.Members
import Toolbench.Tool.Arguments

/-!
# JSON Schema

The part of JSON Schema Draft 7 in which the arguments of tools are described: which values
are schemas of that part, and what in a value violates a schema.
-/

namespace Toolbench

namespace Schema

/-- The words that name types. -/
def typeWords : List String :=
  ["null", "boolean", "object", "array", "number", "string", "integer"]

/-- Whether a value is of the type that a word names; a number without a fraction is an
integer, however it is spelled. -/
def isOfType (word : String) : Json → Bool
  | .null => word == "null"
  | .bool _ => word == "boolean"
  | .object _ => word == "object"
  | .array _ => word == "array"
  | .string _ => word == "string"
  | .number (.integer _) => word == "number" || word == "integer"
  | .number (.real value) => word == "number" || (word == "integer" && value.toInt?.isSome)

def distinctTexts? (items : List Json) : Option (List String) := do
  let texts ← items.mapM Json.string?
  if texts.Nodup then some texts else none

/-- Whether a keyword without schemas in it has the form that it should have. -/
def isPlainKeyword (word : String) (body : Json) : Bool :=
  match word with
  | "type" =>
      match body with
      | .string name => typeWords.contains name
      | .array names =>
          match distinctTexts? names with
          | some names => names.all typeWords.contains && !names.isEmpty
          | none => false
      | _ => false
  | "required" =>
      match body with
      | .array names => (distinctTexts? names).isSome
      | _ => false
  | "enum" => body.items?.isSome
  | "title" | "description" => body.string?.isSome
  | "default" => true
  | _ => false

mutual

/-- Whether a value is a schema, with no keyword that is not known here. -/
def isSchema : Json → Bool
  | .bool _ => true
  | .object keywords => areKeywords keywords
  | _ => false

/-- Whether all keywords have the form that they should have. -/
def areKeywords : Json.Members → Bool
  | [] => true
  | (word, body) :: rest =>
      (if word = "properties" then
        match body with
        | .object properties => areSchemas properties
        | _ => false
      else if word = "additionalProperties" then isSchema body
      else isPlainKeyword word body) && areKeywords rest

/-- Whether all members are schemas. -/
def areSchemas : Json.Members → Bool
  | [] => true
  | (_, schema) :: rest => isSchema schema && areSchemas rest

end

/-- Where a value violates a schema, and the keyword that it violates. -/
structure Violation where
  path : List String
  keyword : String

def membersOf : Json → Json.Members
  | .object members => members
  | _ => []

/-- The members that the keyword for properties does not name. -/
def additional (siblings : Json.Members) (value : Json) : Json.Members :=
  (membersOf value).filter fun member =>
    !((membersOf ((siblings.find? "properties").getD .null)).find? member.1).isSome

/-- Whether a value meets a keyword without schemas in it. -/
def meets (value : Json) (word : String) (body : Json) : Bool :=
  match word, body with
  | "type", .string name => isOfType name value
  | "type", .array names => names.any fun name => name.string?.any (isOfType · value)
  | "enum", .array candidates => candidates.any (·.equalValue value)
  | "required", .array names =>
      match value with
      | .object members =>
          names.all fun name => name.string?.all fun name => (Json.Members.find? name members).isSome
      | _ => true
  | _, _ => true

mutual

/-- What in a value violates a schema. -/
def violations (path : List String) (value : Json) : Json → List Violation
  | .bool false => [⟨path, "false"⟩]
  | .object keywords => keywordViolations path value keywords keywords
  | _ => []
termination_by structural schema => schema

/-- What in a value violates keywords, given all keywords of their schema. -/
def keywordViolations (path : List String) (value : Json) (siblings : Json.Members) :
    Json.Members → List Violation
  | [] => []
  | (word, body) :: rest =>
      (if word = "properties" then
        match body with
        | .object properties => propertyViolations path value properties
        | _ => []
      else if word = "additionalProperties" then
        (additional siblings value).flatMap fun member =>
          violations (path ++ [member.1]) member.2 body
      else if meets value word body then []
      else [⟨path, word⟩]) ++ keywordViolations path value siblings rest
termination_by structural keywords => keywords

/-- What in the members of a value violates the schemas of their names. -/
def propertyViolations (path : List String) (value : Json) :
    Json.Members → List Violation
  | [] => []
  | (name, schema) :: rest =>
      (match (membersOf value).find? name with
        | some member => violations (path ++ [name]) member schema
        | none => []) ++ propertyViolations path value rest
termination_by structural properties => properties

end

theorem distinctTexts?_map {texts : List String} (hnodup : texts.Nodup) :
    distinctTexts? (texts.map .string) = some texts := by
  have htexts : (texts.map Json.string).mapM Json.string? = some texts := by
    clear hnodup
    induction texts with
    | nil =>
        rfl
    | cons text rest ih =>
        simp [Json.string?, ih]
  simp [distinctTexts?, htexts, hnodup]

theorem areSchemas_iff (schemas : Json.Members) :
    areSchemas schemas ↔ ∀ entry ∈ schemas, isSchema entry.2 := by
  induction schemas with
  | nil =>
      simp [areSchemas]
  | cons entry rest ih =>
      obtain ⟨name, schema⟩ := entry
      simp [areSchemas, ih]

/-- Whether one keyword has the form that it should have. -/
def isKeyword (word : String) (body : Json) : Bool :=
  if word = "properties" then
    match body with
    | .object properties => areSchemas properties
    | _ => false
  else if word = "additionalProperties" then isSchema body
  else isPlainKeyword word body

theorem areKeywords_iff (keywords : Json.Members) :
    areKeywords keywords ↔ ∀ entry ∈ keywords, isKeyword entry.1 entry.2 := by
  induction keywords with
  | nil =>
      simp [areKeywords]
  | cons entry rest ih =>
      obtain ⟨word, body⟩ := entry
      unfold areKeywords
      rw [Bool.and_eq_true, ih, List.forall_mem_cons]
      rfl

/-- A schema is made of keywords in any order. -/
theorem isSchema_ofMembers {keywords : Json.Members} (hdistinct : keywords.Distinct)
    (hkeywords : ∀ entry ∈ keywords, isKeyword entry.1 entry.2) :
    isSchema (.ofMembers keywords) := by
  unfold Json.ofMembers isSchema
  refine (areKeywords_iff _).mpr fun entry hentry => ?_
  exact hkeywords entry ((Json.Members.mem_ofList hdistinct entry).mp hentry)

/-- What in a value violates one keyword. -/
def keywordViolation (path : List String) (value : Json) (siblings : Json.Members)
    (word : String) (body : Json) : List Violation :=
  if word = "properties" then
    match body with
    | .object properties => propertyViolations path value properties
    | _ => []
  else if word = "additionalProperties" then
    (additional siblings value).flatMap fun member =>
      violations (path ++ [member.1]) member.2 body
  else if meets value word body then []
  else [⟨path, word⟩]

theorem mem_keywordViolations (path : List String) (value : Json) (siblings : Json.Members)
    (keywords : Json.Members) (violation : Violation) :
    violation ∈ keywordViolations path value siblings keywords ↔
      ∃ entry ∈ keywords, violation ∈ keywordViolation path value siblings entry.1 entry.2 := by
  induction keywords with
  | nil =>
      simp [keywordViolations]
  | cons entry rest ih =>
      obtain ⟨word, body⟩ := entry
      unfold keywordViolations
      simp only [List.mem_append, ih, List.mem_cons, exists_eq_or_imp]
      rfl

theorem mem_propertyViolations (path : List String) (value : Json) (properties : Json.Members)
    (violation : Violation) :
    violation ∈ propertyViolations path value properties ↔
      ∃ entry ∈ properties, ∃ member, (membersOf value).find? entry.1 = some member ∧
        violation ∈ violations (path ++ [entry.1]) member entry.2 := by
  induction properties with
  | nil =>
      simp [propertyViolations]
  | cons entry rest ih =>
      obtain ⟨name, schema⟩ := entry
      unfold propertyViolations
      simp only [List.mem_append, ih, List.mem_cons, exists_eq_or_imp]
      cases hmember : (membersOf value).find? name with
      | none => simp
      | some member => simp

/-- What in a value violates a schema violates one of its keywords. -/
theorem mem_violations_ofMembers {keywords : Json.Members} (hdistinct : keywords.Distinct)
    (path : List String) (value : Json) (violation : Violation) :
    violation ∈ violations path value (.ofMembers keywords) ↔
      ∃ entry ∈ keywords, violation ∈ keywordViolation path value
        (Json.Members.ofList keywords) entry.1 entry.2 := by
  unfold Json.ofMembers violations
  rw [mem_keywordViolations]
  simp only [Json.Members.mem_ofList hdistinct]

end Schema

end Toolbench
