import Toolbench.Proofs.Json.Schema
import Toolbench.Proofs.Tool.Declaration

/-!
# The schema of a tool's arguments

The schema of every tool is a schema, and arguments of the declared types, with none
undeclared and none missing, can violate it only by a value that is not an allowed one.
-/

namespace Toolbench

open Json Schema

namespace Parameter

/-- The keywords of a parameter's schema. -/
def keywords (parameter : Parameter) : Members :=
  [("type", .string parameter.type.name)] ++
  (if parameter.description == "" then []
    else [("description", .string parameter.description)]) ++
  (match parameter.default with
    | some value => [("default", value)]
    | none => []) ++
  (match parameter.allowed with
    | some values => [("enum", .array values)]
    | none => [])

theorem schema_eq (parameter : Parameter) :
    parameter.schema = .ofMembers parameter.keywords :=
  rfl

theorem mem_keywords (parameter : Parameter) (word : String) (body : Json) :
    (word, body) ∈ parameter.keywords ↔
      word = "type" ∧ body = .string parameter.type.name ∨
      word = "description" ∧ parameter.description ≠ "" ∧
        body = .string parameter.description ∨
      word = "default" ∧ parameter.default = some body ∨
      word = "enum" ∧ ∃ values, parameter.allowed = some values ∧ body = .array values := by
  unfold keywords
  by_cases hdescription : parameter.description = "" <;>
    cases hdefault : parameter.default <;> cases hallowed : parameter.allowed <;>
      simp [hdescription, @eq_comm _ body]

theorem distinct_keywords (parameter : Parameter) : parameter.keywords.Distinct := by
  unfold keywords Members.Distinct
  by_cases hdescription : parameter.description = "" <;>
    cases hdefault : parameter.default <;> cases hallowed : parameter.allowed <;>
      simp [hdescription]

theorem isSchema_schema (parameter : Parameter) : isSchema parameter.schema := by
  rw [schema_eq]
  refine isSchema_ofMembers parameter.distinct_keywords fun entry hentry => ?_
  obtain ⟨word, body⟩ := entry
  rcases (mem_keywords parameter word body).mp hentry with
    ⟨rfl, rfl⟩ | ⟨rfl, -, rfl⟩ | ⟨rfl, -⟩ | ⟨rfl, values, -, rfl⟩
  · cases parameter.type <;> rfl
  · rfl
  · rfl
  · rfl

/-- Whether the allowed values, if there are any, hold a value as numbers are compared. -/
def Permits (parameter : Parameter) (value : Json) : Prop :=
  ∀ values, parameter.allowed = some values → ∃ candidate ∈ values, candidate.equalValue value

theorem isOfType_of_admits {type : ParamType} {value : Json} (hadmits : type.admits value) :
    isOfType type.name value := by
  cases value with
  | number number =>
      cases number <;> cases type <;> first | rfl | cases hadmits
  | _ =>
      cases type <;> first | rfl | cases hadmits

/-- A value violates the schema of a parameter by not being of the type that it names or by not
being permitted. -/
theorem mem_violations_schema_iff (parameter : Parameter) (path : List String) (value : Json)
    (violation : Violation) :
    violation ∈ violations path value parameter.schema ↔
      isOfType parameter.type.name value = false ∧ violation = ⟨path, "type"⟩ ∨
      ¬ parameter.Permits value ∧ violation = ⟨path, "enum"⟩ := by
  rw [schema_eq, mem_violations_ofMembers parameter.distinct_keywords]
  constructor
  · rintro ⟨⟨word, body⟩, hentry, hviolation⟩
    rcases (mem_keywords parameter word body).mp hentry with
      ⟨rfl, rfl⟩ | ⟨rfl, -, rfl⟩ | ⟨rfl, -⟩ | ⟨rfl, values, hvalues, rfl⟩
    · cases htype : isOfType parameter.type.name value with
      | true => simp [keywordViolation, meets, htype] at hviolation
      | false => exact Or.inl ⟨rfl, by simpa [keywordViolation, meets, htype] using hviolation⟩
    · simp [keywordViolation, meets] at hviolation
    · simp [keywordViolation, meets] at hviolation
    · by_cases hmeets : meets value "enum" (.array values)
      · simp [keywordViolation, hmeets] at hviolation
      · refine Or.inr ⟨fun hpermits => hmeets ?_,
          by simpa [keywordViolation, hmeets] using hviolation⟩
        simpa [meets] using hpermits values hvalues
  · rintro (⟨htype, rfl⟩ | ⟨hrefused, rfl⟩)
    · refine ⟨("type", .string parameter.type.name), (mem_keywords parameter _ _).mpr ?_, ?_⟩
      · exact Or.inl ⟨rfl, rfl⟩
      · simp [keywordViolation, meets, htype]
    · simp only [Permits, Classical.not_forall] at hrefused
      obtain ⟨values, hvalues, hrefused⟩ := hrefused
      refine ⟨("enum", .array values), (mem_keywords parameter _ _).mpr ?_, ?_⟩
      · exact Or.inr (Or.inr (Or.inr ⟨rfl, values, hvalues, rfl⟩))
      · have hmeets : meets value "enum" (.array values) = false := by
          simpa [meets] using hrefused
        simp [keywordViolation, hmeets]

/-- A value of the declared type violates the schema exactly by not being permitted. -/
theorem mem_violations_schema {parameter : Parameter} {value : Json}
    (hadmits : parameter.type.admits value) (path : List String) (violation : Violation) :
    violation ∈ violations path value parameter.schema ↔
      ¬ parameter.Permits value ∧ violation = ⟨path, "enum"⟩ := by
  rw [mem_violations_schema_iff, isOfType_of_admits hadmits]
  simp

theorem violations_schema_eq_nil_iff (parameter : Parameter) (path : List String) (value : Json) :
    violations path value parameter.schema = [] ↔
      isOfType parameter.type.name value ∧ parameter.Permits value := by
  simp only [List.eq_nil_iff_forall_not_mem, mem_violations_schema_iff, not_or, not_and]
  constructor
  · intro hnone
    constructor
    · cases htype : isOfType parameter.type.name value with
      | true => rfl
      | false => exact absurd rfl ((hnone ⟨path, "type"⟩).1 htype)
    · refine Classical.byContradiction fun hrefused => ?_
      exact (hnone ⟨path, "enum"⟩).2 hrefused rfl
  · rintro ⟨htype, hpermits⟩ violation
    refine ⟨fun hother => ?_, fun hrefused => absurd hpermits hrefused⟩
    rw [htype] at hother
    cases hother

end Parameter

namespace Tool

variable (tool : Tool)

def properties : Members :=
  tool.parameters.map fun parameter => (parameter.name, parameter.schema)

/-- The parameters that every call has to supply, by name. -/
def demanded : List String :=
  (tool.parameters.filter Parameter.isDemanded).map (·.name)

/-- The keywords of the schema of the arguments. -/
def keywords : Members :=
  [("type", .string "object"), ("properties", .ofMembers tool.properties),
    ("required", .array (tool.demanded.map .string)), ("additionalProperties", .bool false)]

theorem inputSchema_eq : tool.inputSchema = .ofMembers tool.keywords := by
  simp [inputSchema, keywords, properties, demanded, Function.comp_def]

theorem distinct_keywords : tool.keywords.Distinct := by
  simp [keywords, Members.Distinct]

theorem distinct_properties : tool.properties.Distinct :=
  List.pairwise_map.mpr tool.names_distinct

theorem nodup_demanded : tool.demanded.Nodup :=
  List.pairwise_map.mpr (tool.names_distinct.sublist List.filter_sublist)

theorem isSchema_properties :
    areSchemas (Members.ofList tool.properties) := by
  refine (areSchemas_iff _).mpr fun entry hentry => ?_
  have hmem := (Members.mem_ofList tool.distinct_properties entry).mp hentry
  obtain ⟨parameter, -, rfl⟩ := List.mem_map.mp hmem
  exact parameter.isSchema_schema

theorem isSchema_inputSchema : isSchema tool.inputSchema := by
  rw [inputSchema_eq]
  refine isSchema_ofMembers tool.distinct_keywords fun entry hentry => ?_
  simp only [keywords, List.mem_cons, List.not_mem_nil, or_false] at hentry
  rcases hentry with rfl | rfl | rfl | rfl
  · rfl
  · exact tool.isSchema_properties
  · simp [isKeyword, isPlainKeyword, distinctTexts?_map tool.nodup_demanded]
  · rfl

/-- Arguments as they are before the allowed values are looked at: none undeclared, all of
the declared types, and none missing. -/
structure Typed (arguments : Arguments) : Prop where
  ordered : Members.Ordered arguments
  admitted : ∀ name value, (name, value) ∈ arguments →
    ∃ parameter ∈ tool.parameters, parameter.name = name ∧ parameter.type.admits value
  complete : ∀ name ∈ tool.demanded, (Members.find? name arguments).isSome

variable {tool}

theorem Typed.find?_admitted {arguments : Arguments} (htyped : tool.Typed arguments)
    {parameter : Parameter} (hparameter : parameter ∈ tool.parameters) {value : Json}
    (hvalue : Members.find? parameter.name arguments = some value) :
    parameter.type.admits value := by
  obtain ⟨other, hother, hname, hadmits⟩ :=
    htyped.admitted parameter.name value (Members.mem_of_find? hvalue)
  have hsame : tool.parameter? parameter.name = some other :=
    (tool.parameter?_eq_some_iff _ _).mpr ⟨hother, hname⟩
  rw [(tool.parameter?_eq_some_iff _ _).mpr ⟨hparameter, rfl⟩] at hsame
  rw [Option.some.inj hsame]
  exact hadmits

theorem find?_keywords_properties (tool : Tool) :
    Members.find? "properties" (Members.ofList tool.keywords) =
      some (.ofMembers tool.properties) :=
  (Members.mem_iff_find? (Members.ordered_ofList _).distinct _ _).mp
    ((Members.mem_ofList tool.distinct_keywords _).mpr (by simp [keywords]))

theorem isSome_find?_properties_iff (tool : Tool) (name : String) :
    (Members.find? name (Members.ofList tool.properties)).isSome ↔
      ∃ parameter ∈ tool.parameters, parameter.name = name := by
  have hfound : ∀ schema, Members.find? name (Members.ofList tool.properties) = some schema ↔
      ∃ parameter ∈ tool.parameters, (parameter.name, parameter.schema) = (name, schema) := by
    intro schema
    rw [← Members.mem_iff_find? (Members.ordered_ofList tool.properties).distinct,
      Members.mem_ofList tool.distinct_properties, properties, List.mem_map]
  simp only [Option.isSome_iff_exists, hfound, Prod.mk.injEq]
  constructor
  · rintro ⟨_, parameter, hparameter, hname, -⟩
    exact ⟨parameter, hparameter, hname⟩
  · rintro ⟨parameter, hparameter, hname⟩
    exact ⟨_, parameter, hparameter, hname, rfl⟩

/-- The members that no parameter has the name of. -/
theorem mem_additional_iff (tool : Tool) (members : Members) (entry : String × Json) :
    entry ∈ additional (Members.ofList tool.keywords) (.object members) ↔
      entry ∈ members ∧ ¬ ∃ parameter ∈ tool.parameters, parameter.name = entry.1 := by
  rw [additional, List.mem_filter, ← isSome_find?_properties_iff, find?_keywords_properties]
  simp [Json.ofMembers, membersOf]

/-- What violates the schema of the arguments: a value its parameter's schema, an undeclared
name, or a missing one. -/
theorem mem_violations_inputSchema_iff (tool : Tool) (members : Members) (violation : Violation) :
    violation ∈ violations [] (.object members) tool.inputSchema ↔
      (∃ parameter ∈ tool.parameters, ∃ value,
        Members.find? parameter.name members = some value ∧
        violation ∈ violations [parameter.name] value parameter.schema) ∨
      (∃ entry ∈ members, (¬ ∃ parameter ∈ tool.parameters, parameter.name = entry.1) ∧
        violation = ⟨[entry.1], "false"⟩) ∨
      (¬ (∀ name ∈ tool.demanded, (Members.find? name members).isSome) ∧
        violation = ⟨[], "required"⟩) := by
  have hproperty : violation ∈ propertyViolations [] (.object members)
      (Members.ofList tool.properties) ↔
      ∃ parameter ∈ tool.parameters, ∃ value,
        Members.find? parameter.name members = some value ∧
        violation ∈ violations [parameter.name] value parameter.schema := by
    rw [mem_propertyViolations]
    simp only [Members.mem_ofList tool.distinct_properties, membersOf, List.nil_append]
    constructor
    · rintro ⟨entry, hentry, value, hvalue, hviolation⟩
      obtain ⟨parameter, hparameter, rfl⟩ := List.mem_map.mp hentry
      exact ⟨parameter, hparameter, value, hvalue, hviolation⟩
    · rintro ⟨parameter, hparameter, value, hvalue, hviolation⟩
      exact ⟨_, List.mem_map.mpr ⟨parameter, hparameter, rfl⟩, value, hvalue, hviolation⟩
  have hadditional : violation ∈ (additional (Members.ofList tool.keywords)
      (.object members)).flatMap (fun member =>
        violations ([] ++ [member.1]) member.2 (.bool false)) ↔
      ∃ entry ∈ members, (¬ ∃ parameter ∈ tool.parameters, parameter.name = entry.1) ∧
        violation = ⟨[entry.1], "false"⟩ := by
    simp only [List.mem_flatMap, mem_additional_iff, violations, List.nil_append,
      List.mem_singleton, and_assoc]
  have hrequired : meets (.object members) "required" (.array (tool.demanded.map .string)) ↔
      ∀ name ∈ tool.demanded, (Members.find? name members).isSome := by
    simp [meets, Json.string?]
  rw [inputSchema_eq, mem_violations_ofMembers tool.distinct_keywords, ← hproperty, ← hadditional,
    ← hrequired]
  constructor
  · rintro ⟨entry, hentry, hviolation⟩
    simp only [keywords, List.mem_cons, List.not_mem_nil, or_false] at hentry
    rcases hentry with rfl | rfl | rfl | rfl
    · simp [keywordViolation, meets, isOfType] at hviolation
    · exact Or.inl hviolation
    · by_cases hmeets : meets (.object members) "required" (.array (tool.demanded.map .string))
      · simp [keywordViolation, hmeets] at hviolation
      · exact Or.inr (Or.inr ⟨hmeets, by simpa [keywordViolation, hmeets] using hviolation⟩)
    · exact Or.inr (Or.inl hviolation)
  · rintro (hviolation | hviolation | ⟨hmissing, rfl⟩)
    · exact ⟨("properties", .ofMembers tool.properties), by simp [keywords], hviolation⟩
    · exact ⟨("additionalProperties", .bool false), by simp [keywords], hviolation⟩
    · exact ⟨("required", .array (tool.demanded.map .string)), by simp [keywords],
        by simp [keywordViolation, hmissing]⟩

/-- What typed arguments violate in their schema: the allowed values, and nothing else. -/
theorem Typed.mem_violations_inputSchema {arguments : Arguments} (htyped : tool.Typed arguments)
    (violation : Violation) :
    violation ∈ violations [] (.object arguments) tool.inputSchema ↔
      ∃ parameter ∈ tool.parameters, ∃ value,
        Members.find? parameter.name arguments = some value ∧
        ¬ parameter.Permits value ∧ violation = ⟨[parameter.name], "enum"⟩ := by
  rw [mem_violations_inputSchema_iff]
  constructor
  · rintro (⟨parameter, hparameter, value, hvalue, hviolation⟩ | ⟨⟨name, value⟩, hentry, hnone, -⟩ |
      ⟨hmissing, -⟩)
    · have hadmits := htyped.find?_admitted hparameter hvalue
      exact ⟨parameter, hparameter, value, hvalue,
        (Parameter.mem_violations_schema hadmits _ _).mp hviolation⟩
    · obtain ⟨parameter, hparameter, hname, -⟩ := htyped.admitted name value hentry
      exact absurd ⟨parameter, hparameter, hname⟩ hnone
    · exact absurd htyped.complete hmissing
  · rintro ⟨parameter, hparameter, value, hvalue, hviolation⟩
    have hadmits := htyped.find?_admitted hparameter hvalue
    exact Or.inl ⟨parameter, hparameter, value, hvalue,
      (Parameter.mem_violations_schema hadmits _ _).mpr hviolation⟩

end Tool

end Toolbench
