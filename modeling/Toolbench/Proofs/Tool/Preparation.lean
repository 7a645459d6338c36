import Toolbench.Proofs.Tool.Schema

/-!
# Prepared arguments

Preparing accepts what the list of parameters says and returns the converted value of each
supplied parameter and the default of each absent one. Of the schema, only the allowed values
can still refuse what was collected.
-/

namespace Toolbench

open Json

namespace ParamType

theorem admits_of_coerce? {type : ParamType} {value result : Json}
    (hcoerce : type.coerce? value = some result) :
    type.admits result := by
  unfold coerce? at hcoerce
  split at hcoerce
  case h_5 =>
    obtain ⟨n, -, rfl⟩ := Option.map_eq_some_iff.mp hcoerce
    rfl
  case h_6 =>
    obtain ⟨n, -, rfl⟩ := Option.map_eq_some_iff.mp hcoerce
    rfl
  case h_8 =>
    obtain ⟨x, -, rfl⟩ := Option.map_eq_some_iff.mp hcoerce
    rfl
  case h_10 =>
    obtain ⟨b, -, rfl⟩ := Option.map_eq_some_iff.mp hcoerce
    rfl
  all_goals first
    | (obtain rfl := Option.some.inj hcoerce; rfl)
    | cases hcoerce

theorem isNull_of_admits {type : ParamType} {value : Json} (hadmits : type.admits value) :
    value.isNull = false := by
  cases value with
  | null => cases type <;> cases hadmits
  | _ => rfl

theorem equalValue_of_same {type : ParamType} {candidate value : Json}
    (hadmits : type.admits value) (hsame : candidate.same value) :
    candidate.equalValue value := by
  cases value with
  | null => cases type <;> cases hadmits
  | array items => cases type <;> cases hadmits
  | object members => cases type <;> cases hadmits
  | bool value =>
      cases candidate <;> simp_all [same, equalValue]
  | string value =>
      cases candidate <;> simp_all [same, equalValue]
  | number value =>
      cases candidate with
      | number candidate =>
          cases candidate <;> cases value <;>
            simp_all [same, equalValue, Number.same, Number.equalValue]
      | _ => simp [same] at hsame

end ParamType

namespace Parameter

/-- The value that a parameter gets from supplied members. -/
def result? (parameter : Parameter) (members : Members) : Option Json :=
  match Tool.supplied? members parameter.name with
  | some value => parameter.type.coerce? value
  | none => parameter.default

/-- How supplied members suit a parameter before its allowed values are looked at. -/
inductive Suits (parameter : Parameter) (members : Members) : Prop where
  | supplied {value result : Json}
      (hvalue : Tool.supplied? members parameter.name = some value)
      (hresult : parameter.type.coerce? value = some result)
  | absent
      (hvalue : Tool.supplied? members parameter.name = none)
      (hspared : parameter.default.isSome ∨ parameter.required = false)

/-- How supplied members satisfy a parameter: with a value that converts to its type and is
then permitted, or with none where it has a default or is optional. -/
inductive Accepts (parameter : Parameter) (members : Members) : Prop where
  | supplied {value result : Json}
      (hvalue : Tool.supplied? members parameter.name = some value)
      (hresult : parameter.type.coerce? value = some result)
      (hpermits : parameter.Permits result)
  | absent
      (hvalue : Tool.supplied? members parameter.name = none)
      (hspared : parameter.default.isSome ∨ parameter.required = false)

theorem Coherent.default_permitted {parameter : Parameter} (hcoherent : parameter.Coherent)
    {value : Json} (hdefault : parameter.default = some value) :
    parameter.Permits value := by
  intro values hvalues
  have hholds := hcoherent.default_allowed values value hvalues hdefault
  obtain ⟨candidate, hcandidate, hsame⟩ := List.any_eq_true.mp hholds
  exact ⟨candidate, hcandidate,
    ParamType.equalValue_of_same (hcoherent.default_admitted value hdefault) hsame⟩

theorem Coherent.result_admitted {parameter : Parameter} (hcoherent : parameter.Coherent)
    {members : Members} {value : Json} (hresult : parameter.result? members = some value) :
    parameter.type.admits value := by
  unfold result? at hresult
  split at hresult
  · exact ParamType.admits_of_coerce? hresult
  · exact hcoherent.default_admitted value hresult

/-- Nothing but a supplied value can be refused for not being allowed. -/
theorem Coherent.accepts_iff {parameter : Parameter} (hcoherent : parameter.Coherent)
    (members : Members) :
    parameter.Accepts members ↔
      parameter.Suits members ∧
        ∀ value, parameter.result? members = some value → parameter.Permits value := by
  constructor
  · rintro (⟨hvalue, hresult, hpermits⟩ | ⟨hvalue, hspared⟩)
    · refine ⟨.supplied hvalue hresult, fun value hsome => ?_⟩
      simp only [result?, hvalue, hresult, Option.some.injEq] at hsome
      exact hsome ▸ hpermits
    · refine ⟨.absent hvalue hspared, fun value hsome => ?_⟩
      simp only [result?, hvalue] at hsome
      exact hcoherent.default_permitted hsome
  · rintro ⟨⟨hvalue, hresult⟩ | ⟨hvalue, hspared⟩, hpermits⟩
    · exact .supplied hvalue hresult (hpermits _ (by simp [result?, hvalue, hresult]))
    · exact .absent hvalue hspared

theorem argument?_eq_ok_iff (parameter : Parameter) (members : Members) (value? : Option Json) :
    Tool.argument? members parameter = .ok value? ↔
      parameter.Suits members ∧ value? = parameter.result? members := by
  unfold Tool.argument? result?
  cases hvalue : Tool.supplied? members parameter.name with
  | some value =>
      cases hresult : parameter.type.coerce? value with
      | some result =>
          have hsuits : parameter.Suits members := .supplied hvalue hresult
          simp [hresult, hsuits, eq_comm]
      | none =>
          have hsuits : ¬ parameter.Suits members := by
            rintro (⟨hother, hcoerce⟩ | ⟨hother, -⟩)
            · rw [hvalue, Option.some.injEq] at hother
              simp [← hother, hresult] at hcoerce
            · simp [hvalue] at hother
          simp [hresult, hsuits]
  | none =>
      cases hdefault : parameter.default with
      | some default =>
          have hsuits : parameter.Suits members := .absent hvalue (by simp [hdefault])
          simp [hsuits, eq_comm]
      | none =>
          by_cases hrequired : parameter.required
          · have hsuits : ¬ parameter.Suits members := by
              rintro (⟨hother, -⟩ | ⟨-, hspared⟩)
              · simp [hvalue] at hother
              · simp [hdefault, hrequired] at hspared
            simp [hrequired, hsuits]
          · have hsuits : parameter.Suits members := .absent hvalue (by simp [hrequired])
            simp [hrequired, hsuits, eq_comm]

end Parameter

namespace Tool

/-- The values that parameters get, each under the name of its parameter. -/
def results (members : Members) (parameters : List Parameter) : Members :=
  parameters.filterMap fun parameter =>
    (parameter.result? members).map fun value => (parameter.name, value)

theorem mem_results (members : Members) (parameters : List Parameter) (name : String)
    (value : Json) :
    (name, value) ∈ results members parameters ↔
      ∃ parameter ∈ parameters, parameter.name = name ∧
        parameter.result? members = some value := by
  simp only [results, List.mem_filterMap, Option.map_eq_some_iff, Prod.mk.injEq]
  constructor
  · rintro ⟨parameter, hparameter, _, hresult, hname, rfl⟩
    exact ⟨parameter, hparameter, hname, hresult⟩
  · rintro ⟨parameter, hparameter, hname, hresult⟩
    exact ⟨parameter, hparameter, value, hresult, hname, rfl⟩

theorem distinct_results (members : Members) {parameters : List Parameter}
    (hdistinct : parameters.Pairwise fun earlier later => earlier.name ≠ later.name) :
    (results members parameters).Distinct := by
  refine List.Pairwise.filterMap _ ?_ hdistinct
  intro earlier later hne entry hentry other hother
  obtain ⟨_, -, rfl⟩ := Option.map_eq_some_iff.mp hentry
  obtain ⟨_, -, rfl⟩ := Option.map_eq_some_iff.mp hother
  exact hne

theorem collect_eq_ok_iff (members : Members) (arguments collected : Arguments)
    (parameters : List Parameter) :
    collect members arguments parameters = .ok collected ↔
      (∀ parameter ∈ parameters, parameter.Suits members) ∧
        collected = (results members parameters).foldl
          (fun arguments entry => Members.insert entry.1 entry.2 arguments) arguments := by
  induction parameters generalizing arguments with
  | nil =>
      simp [collect, results, eq_comm]
  | cons parameter rest ih =>
      unfold collect
      cases hargument : argument? members parameter with
      | error fault =>
          have hsuits : ¬ parameter.Suits members := by
            intro hsuits
            rw [(parameter.argument?_eq_ok_iff members _).mpr ⟨hsuits, rfl⟩] at hargument
            cases hargument
          simp [hsuits]
      | ok value? =>
          obtain ⟨hsuits, rfl⟩ := (parameter.argument?_eq_ok_iff members _).mp hargument
          cases hresult : parameter.result? members with
          | some value =>
              simp [hresult, ih, hsuits, results]
          | none =>
              simp [hresult, ih, hsuits, results]

theorem collect_nil_eq_ok_iff (tool : Tool) (members : Members) (collected : Arguments) :
    collect members [] tool.parameters = .ok collected ↔
      (∀ parameter ∈ tool.parameters, parameter.Suits members) ∧
        collected = Members.ofList (results members tool.parameters) :=
  collect_eq_ok_iff members [] collected tool.parameters

/-- Arguments hold the value that each parameter gets, and nothing else. -/
structure Holds (tool : Tool) (members : Members) (arguments : Arguments) : Prop where
  ordered : Members.Ordered arguments
  mem_iff : ∀ name value, (name, value) ∈ arguments ↔
    ∃ parameter ∈ tool.parameters, parameter.name = name ∧
      parameter.result? members = some value

theorem holds_iff (tool : Tool) (members : Members) (arguments : Arguments) :
    tool.Holds members arguments ↔
      arguments = Members.ofList (results members tool.parameters) := by
  have hmem : ∀ name value,
      (name, value) ∈ Members.ofList (results members tool.parameters) ↔
        ∃ parameter ∈ tool.parameters, parameter.name = name ∧
          parameter.result? members = some value := by
    intro name value
    rw [Members.mem_ofList (distinct_results members tool.names_distinct), mem_results]
  constructor
  · intro hholds
    refine hholds.ordered.ext (Members.ordered_ofList _) fun name value => ?_
    rw [hholds.mem_iff, hmem]
  · rintro rfl
    exact ⟨Members.ordered_ofList _, hmem⟩

theorem Holds.find?_eq {tool : Tool} {members : Members} {arguments : Arguments}
    (hholds : tool.Holds members arguments) {parameter : Parameter}
    (hparameter : parameter ∈ tool.parameters) :
    Members.find? parameter.name arguments = parameter.result? members := by
  refine Option.ext fun value => ?_
  rw [← Members.mem_iff_find? hholds.ordered.distinct, hholds.mem_iff]
  constructor
  · rintro ⟨other, hother, hname, hresult⟩
    have hsame := (tool.parameter?_eq_some_iff _ _).mpr ⟨hother, hname⟩
    rw [(tool.parameter?_eq_some_iff _ _).mpr ⟨hparameter, rfl⟩] at hsame
    rw [Option.some.inj hsame]
    exact hresult
  · intro hresult
    exact ⟨parameter, hparameter, rfl, hresult⟩

theorem Holds.typed {tool : Tool} {members : Members} {arguments : Arguments}
    (hholds : tool.Holds members arguments)
    (hsuits : ∀ parameter ∈ tool.parameters, parameter.Suits members) :
    tool.Typed arguments where
  ordered := hholds.ordered
  admitted := by
    intro name value hmem
    obtain ⟨parameter, hparameter, hname, hresult⟩ := (hholds.mem_iff name value).mp hmem
    exact ⟨parameter, hparameter, hname, (tool.coherent hparameter).result_admitted hresult⟩
  complete := by
    intro name hname
    obtain ⟨parameter, hmem, rfl⟩ := List.mem_map.mp hname
    obtain ⟨hparameter, hdemanded⟩ := List.mem_filter.mp hmem
    rw [hholds.find?_eq hparameter]
    rcases hsuits parameter hparameter with ⟨hvalue, hresult⟩ | ⟨hvalue, hspared⟩
    · simp [Parameter.result?, hvalue, hresult]
    · -- a demanded parameter is neither optional nor has it a default
      simp only [Parameter.isDemanded, Bool.and_eq_true, Option.isNone_iff_eq_none] at hdemanded
      simp [hdemanded.1, hdemanded.2] at hspared

theorem Holds.notAllowed_eq_nil_iff {tool : Tool} {members : Members} {arguments : Arguments}
    (hholds : tool.Holds members arguments) :
    tool.notAllowed arguments = [] ↔
      ∀ parameter ∈ tool.parameters, ∀ value,
        parameter.result? members = some value → parameter.Permits value := by
  unfold notAllowed
  rw [List.filterMap_eq_nil_iff]
  constructor
  · intro hnone parameter hparameter value hresult values hvalues
    have hentry := hnone (parameter.name, value)
      ((hholds.mem_iff _ _).mpr ⟨parameter, hparameter, rfl, hresult⟩)
    simp only [(tool.parameter?_eq_some_iff _ _).mpr ⟨hparameter, rfl⟩, Option.bind_some,
      hvalues] at hentry
    split at hentry
    · rename_i hany
      simpa using hany
    · cases hentry
  · rintro hpermits ⟨name, value⟩ hmem
    obtain ⟨parameter, hparameter, rfl, hresult⟩ := (hholds.mem_iff name value).mp hmem
    simp only [(tool.parameter?_eq_some_iff _ _).mpr ⟨hparameter, rfl⟩, Option.bind_some]
    cases hallowed : parameter.allowed with
    | none => rfl
    | some values =>
        have hany : (values.any fun candidate => candidate.equalValue value) = true := by
          simpa using hpermits parameter hparameter value hresult values hallowed
        simp [hany]

theorem Holds.violations_eq_nil_iff {tool : Tool} {members : Members} {arguments : Arguments}
    (hholds : tool.Holds members arguments)
    (hsuits : ∀ parameter ∈ tool.parameters, parameter.Suits members) :
    Schema.violations [] (.object arguments) tool.inputSchema = [] ↔
      ∀ parameter ∈ tool.parameters, ∀ value,
        parameter.result? members = some value → parameter.Permits value := by
  have hviolations := (hholds.typed hsuits).mem_violations_inputSchema
  rw [List.eq_nil_iff_forall_not_mem]
  constructor
  · intro hnone parameter hparameter value hresult
    refine Classical.byContradiction fun hrefused => ?_
    refine hnone _ ((hviolations ⟨[parameter.name], "enum"⟩).mpr ?_)
    exact ⟨parameter, hparameter, value, by rw [hholds.find?_eq hparameter, hresult],
      hrefused, rfl⟩
  · intro hpermits violation hviolation
    obtain ⟨parameter, hparameter, value, hvalue, hrefused, -⟩ :=
      (hviolations violation).mp hviolation
    rw [hholds.find?_eq hparameter] at hvalue
    exact hrefused (hpermits parameter hparameter value hvalue)

/-- The members that a raw value supplies; `null` supplies none. -/
def Supplies (raw : Json) (members : Members) : Prop :=
  raw = .object members ∨ raw = .null ∧ members = []

theorem suppliedMembers_eq_ok_iff (raw : Json) (members : Members) :
    suppliedMembers raw = .ok members ↔ Supplies raw members := by
  cases raw <;> simp [suppliedMembers, Supplies, eq_comm]

theorem unknownName?_eq_none_iff (tool : Tool) (members : Members) :
    tool.unknownName? members = none ↔
      ∀ entry ∈ members, ∃ parameter ∈ tool.parameters, parameter.name = entry.1 := by
  simp [unknownName?, parameter?]

theorem prepare_eq_ok_iff (tool : Tool) (raw : Json) (arguments : Arguments) :
    tool.prepare raw = .ok arguments ↔
      ∃ members, suppliedMembers raw = .ok members ∧ tool.unknownName? members = none ∧
        collect members [] tool.parameters = .ok arguments ∧
        tool.notAllowed arguments = [] := by
  unfold prepare prepareArguments
  simp only [bind, Except.bind, pure, Except.pure, throw, throwThe, MonadExceptOf.throw]
  cases hsupplied : suppliedMembers raw with
  | error fault => simp
  | ok members =>
      cases hunknown : tool.unknownName? members with
      | some name => simp [hunknown]
      | none =>
          cases hcollect : collect members [] tool.parameters with
          | error fault => simp [hunknown, hcollect]
          | ok collected =>
              cases hvalues : tool.notAllowed collected with
              | nil =>
                  simp only [hunknown, hcollect, hvalues, Except.ok.injEq, exists_eq_left',
                    true_and]
                  constructor
                  · rintro rfl
                    exact ⟨rfl, hvalues⟩
                  · exact fun h => h.1
              | cons first rest =>
                  simp only [hunknown, hcollect, hvalues, Except.ok.injEq, exists_eq_left',
                    true_and]
                  constructor
                  · rintro ⟨⟩
                  · rintro ⟨rfl, hnil⟩
                    simp [hvalues] at hnil

/-- What the list of parameters asks of supplied members. -/
structure Accepts (tool : Tool) (members : Members) : Prop where
  declared : ∀ entry ∈ members, ∃ parameter ∈ tool.parameters, parameter.name = entry.1
  accepted : ∀ parameter ∈ tool.parameters, parameter.Accepts members

theorem accepts_iff (tool : Tool) (members : Members) :
    tool.Accepts members ↔
      tool.unknownName? members = none ∧
        (∀ parameter ∈ tool.parameters, parameter.Suits members) ∧
        ∀ parameter ∈ tool.parameters, ∀ value,
          parameter.result? members = some value → parameter.Permits value := by
  rw [unknownName?_eq_none_iff]
  constructor
  · rintro ⟨hdeclared, haccepted⟩
    refine ⟨hdeclared, fun parameter hparameter => ?_, fun parameter hparameter => ?_⟩
    · exact ((tool.coherent hparameter).accepts_iff members).mp (haccepted _ hparameter) |>.1
    · exact ((tool.coherent hparameter).accepts_iff members).mp (haccepted _ hparameter) |>.2
  · rintro ⟨hdeclared, hsuits, hpermits⟩
    refine ⟨hdeclared, fun parameter hparameter => ?_⟩
    exact ((tool.coherent hparameter).accepts_iff members).mpr
      ⟨hsuits _ hparameter, hpermits _ hparameter⟩

theorem prepare_eq_ok_iff_accepts (tool : Tool) (raw : Json) (arguments : Arguments) :
    tool.prepare raw = .ok arguments ↔
      ∃ members, Supplies raw members ∧ tool.Accepts members ∧ tool.Holds members arguments := by
  rw [prepare_eq_ok_iff]
  constructor
  · rintro ⟨members, hsupplied, hunknown, hcollect, hallowed⟩
    obtain ⟨hsuits, hcollected⟩ := (collect_nil_eq_ok_iff tool members arguments).mp hcollect
    have hholds := (tool.holds_iff members arguments).mpr hcollected
    exact ⟨members, (suppliedMembers_eq_ok_iff _ _).mp hsupplied,
      (tool.accepts_iff members).mpr ⟨hunknown, hsuits, hholds.notAllowed_eq_nil_iff.mp hallowed⟩,
      hholds⟩
  · rintro ⟨members, hsupplies, haccepts, hholds⟩
    obtain ⟨hunknown, hsuits, hpermits⟩ := (tool.accepts_iff members).mp haccepts
    exact ⟨members, (suppliedMembers_eq_ok_iff _ _).mpr hsupplies, hunknown,
      (collect_nil_eq_ok_iff tool members arguments).mpr
        ⟨hsuits, (tool.holds_iff members arguments).mp hholds⟩,
      hholds.notAllowed_eq_nil_iff.mpr hpermits⟩

/-- Preparing succeeds exactly for what the parameters accept, and returns exactly the values
that they get; these have the declared types and are not `null`. The schema of the arguments
is a schema, what is collected violates it only by values that are not allowed, and preparing
succeeds exactly where nothing does. -/
theorem prepare_exact (tool : Tool) (raw : Json) :
    (∀ arguments, tool.prepare raw = .ok arguments ↔
      ∃ members, Supplies raw members ∧ tool.Accepts members ∧ tool.Holds members arguments) ∧
    ((∃ arguments, tool.prepare raw = .ok arguments) ↔
      ∃ members, Supplies raw members ∧ tool.Accepts members) ∧
    (∀ arguments, tool.prepare raw = .ok arguments → ∀ name value, (name, value) ∈ arguments →
      ∃ parameter ∈ tool.parameters, parameter.name = name ∧ parameter.type.admits value ∧
        value.isNull = false) ∧
    Schema.isSchema tool.inputSchema ∧
    ∀ members arguments, Supplies raw members → tool.unknownName? members = none →
      collect members [] tool.parameters = .ok arguments →
        (∀ violation ∈ Schema.violations [] (.object arguments) tool.inputSchema,
          violation.keyword = "enum") ∧
        (tool.prepare raw = .ok arguments ↔
          Schema.violations [] (.object arguments) tool.inputSchema = []) := by
  refine ⟨tool.prepare_eq_ok_iff_accepts raw, ?_, ?_, tool.isSchema_inputSchema, ?_⟩
  · constructor
    · rintro ⟨arguments, hprepare⟩
      obtain ⟨members, hsupplies, haccepts, -⟩ :=
        (tool.prepare_eq_ok_iff_accepts raw arguments).mp hprepare
      exact ⟨members, hsupplies, haccepts⟩
    · rintro ⟨members, hsupplies, haccepts⟩
      exact ⟨_, (tool.prepare_eq_ok_iff_accepts raw _).mpr
        ⟨members, hsupplies, haccepts, (tool.holds_iff members _).mpr rfl⟩⟩
  · intro arguments hprepare name value hmem
    obtain ⟨members, -, haccepts, hholds⟩ :=
      (tool.prepare_eq_ok_iff_accepts raw arguments).mp hprepare
    obtain ⟨-, hsuits, -⟩ := (tool.accepts_iff members).mp haccepts
    obtain ⟨parameter, hparameter, hname, hadmits⟩ := (hholds.typed hsuits).admitted name value hmem
    exact ⟨parameter, hparameter, hname, hadmits, ParamType.isNull_of_admits hadmits⟩
  · intro members arguments hsupplies hunknown hcollect
    obtain ⟨hsuits, hcollected⟩ := (collect_nil_eq_ok_iff tool members arguments).mp hcollect
    have hholds := (tool.holds_iff members arguments).mpr hcollected
    constructor
    · intro violation hviolation
      obtain ⟨_, _, _, _, _, rfl⟩ :=
        ((hholds.typed hsuits).mem_violations_inputSchema violation).mp hviolation
      rfl
    · rw [hholds.violations_eq_nil_iff hsuits, ← hholds.notAllowed_eq_nil_iff, prepare_eq_ok_iff]
      constructor
      · rintro ⟨_, _, _, _, hallowed⟩
        exact hallowed
      · intro hallowed
        exact ⟨members, (suppliedMembers_eq_ok_iff _ _).mpr hsupplies, hunknown, hcollect,
          hallowed⟩

end Tool

end Toolbench
