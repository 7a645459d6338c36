import Toolbench.Proofs.Tool.Preparation

/-!
# Arguments that agree with the schema

What a model supplies in agreement with the schema that it sees is accepted and handed on with
equal values. The exception are numbers for an integer that are spelled with a point or an
exponent, or are too large to be spelled otherwise: these are bounded in size.
-/

namespace Toolbench

open Json Schema

theorem WideInt.eq_of_value {left right : WideInt} (hvalue : left.value = right.value) :
    left = right := by
  cases left
  cases right
  subst hvalue
  rfl

namespace ParamType

theorem coerce?_of_admits {type : ParamType} {value : Json} (hadmits : type.admits value) :
    type.coerce? value = some value := by
  cases value with
  | number number =>
      cases number <;> cases type <;> simp_all [admits, coerce?]
  | _ =>
      cases type <;> simp_all [admits, coerce?]

theorem equalValue_of_admits {type : ParamType} {value : Json} (hadmits : type.admits value) :
    value.equalValue value := by
  refine equalValue_of_same hadmits ?_
  cases value with
  | number number =>
      cases number <;> simp [same, Number.same, Binary64.sameValue]
  | bool value => simp [same]
  | string text => simp [same]
  | _ => cases type <;> cases hadmits

/-- A number of the type that the schema names which the type itself does not admit: an integer
that is not spelled as one. -/
theorem admits_or_real_of_isOfType {type : ParamType} {value : Json}
    (htype : isOfType type.name value) :
    type.admits value ∨
      type = .integer ∧ ∃ x n, value = .number (.real x) ∧ x.toInt? = some n := by
  cases value with
  | number number =>
      cases number with
      | integer n => cases type <;> simp [isOfType, name, admits] at htype ⊢
      | real x => cases type <;>
          simp_all [isOfType, name, admits, Option.isSome_iff_exists]
  | _ => cases type <;> simp [isOfType, name, admits] at htype ⊢

theorem eq_integer_of_admits {value : Json} (hadmits : ParamType.integer.admits value) :
    ∃ n, value = .number (.integer n) := by
  unfold admits at hadmits
  split at hadmits <;> simp_all

theorem wholeNumber?_eq_some_iff (x : Binary64) (n : WideInt) :
    wholeNumber? x = some n ↔
      x.toInt? = some n.value ∧ n.value.natAbs < 0x8000000000000000 := by
  unfold wholeNumber? WideInt.ofInt?
  cases hwhole : x.toInt? with
  | none => simp
  | some value =>
      simp only [Option.bind_eq_bind, Option.bind_some, Option.some.injEq]
      constructor
      · intro hsome
        split at hsome
        · rename_i hsmall
          split at hsome
          · obtain rfl := Option.some.inj hsome
            exact ⟨rfl, hsmall⟩
          · cases hsome
        · cases hsome
      · rintro ⟨rfl, hsmall⟩
        rw [if_pos hsmall, dif_pos ⟨n.lower, n.upper⟩]

/-- Converting a value of the type that the schema names does not change what it is. -/
theorem equalValue_of_coerce? {type : ParamType} {value result : Json}
    (htype : isOfType type.name value) (hcoerce : type.coerce? value = some result) :
    value.equalValue result := by
  rcases admits_or_real_of_isOfType htype with hadmits | ⟨rfl, x, n, rfl, -⟩
  · rw [coerce?_of_admits hadmits, Option.some.injEq] at hcoerce
    exact hcoerce ▸ equalValue_of_admits hadmits
  · obtain ⟨whole, hwhole, rfl⟩ := Option.map_eq_some_iff.mp hcoerce
    simp [equalValue, Number.equalValue, ((wholeNumber?_eq_some_iff x whole).mp hwhole).1]

end ParamType

namespace Parameter

/-- The allowed values of an integer are integers, so one that equals a number is the integer
to which this number is converted. -/
theorem Coherent.permits_of_coerce? {parameter : Parameter} (hcoherent : parameter.Coherent)
    {value result : Json} (htype : isOfType parameter.type.name value)
    (hcoerce : parameter.type.coerce? value = some result) (hpermits : parameter.Permits value) :
    parameter.Permits result := by
  rcases ParamType.admits_or_real_of_isOfType htype with hadmits | ⟨hinteger, x, n, rfl, -⟩
  · rw [ParamType.coerce?_of_admits hadmits, Option.some.injEq] at hcoerce
    exact hcoerce ▸ hpermits
  · rw [hinteger] at hcoerce
    obtain ⟨whole, hwhole, rfl⟩ := Option.map_eq_some_iff.mp hcoerce
    have hvalue := ((ParamType.wholeNumber?_eq_some_iff x whole).mp hwhole).1
    intro values hvalues
    obtain ⟨candidate, hcandidate, hequal⟩ := hpermits values hvalues
    refine ⟨candidate, hcandidate, ?_⟩
    have hadmits := hcoherent.allowed_admitted values hvalues candidate hcandidate
    rw [hinteger] at hadmits
    obtain ⟨allowed, rfl⟩ := ParamType.eq_integer_of_admits hadmits
    simp only [equalValue, Number.equalValue, hvalue, beq_iff_eq, Option.some.injEq] at hequal
    simp only [equalValue, Number.equalValue, WideInt.eq_of_value hequal.symm, beq_self_eq_true]

end Parameter

namespace Tool

/-- Members that are valid against the schema of the arguments. -/
structure Valid (tool : Tool) (members : Members) : Prop where
  declared : ∀ entry ∈ members, ∃ parameter ∈ tool.parameters, parameter.name = entry.1
  complete : ∀ name ∈ tool.demanded, (Members.find? name members).isSome
  typed : ∀ parameter ∈ tool.parameters, ∀ value,
    Members.find? parameter.name members = some value →
      isOfType parameter.type.name value ∧ parameter.Permits value

theorem valid_iff (tool : Tool) (members : Members) :
    violations [] (.object members) tool.inputSchema = [] ↔ tool.Valid members := by
  rw [List.eq_nil_iff_forall_not_mem]
  simp only [mem_violations_inputSchema_iff, not_or]
  constructor
  · intro hnone
    refine ⟨fun entry hentry => ?_, ?_, fun parameter hparameter value hvalue => ?_⟩
    · refine Classical.byContradiction fun hundeclared => ?_
      exact (hnone ⟨[entry.1], "false"⟩).2.1 ⟨entry, hentry, hundeclared, rfl⟩
    · refine Classical.byContradiction fun hmissing => ?_
      exact (hnone ⟨[], "required"⟩).2.2 ⟨hmissing, rfl⟩
    · rw [← parameter.violations_schema_eq_nil_iff [parameter.name], List.eq_nil_iff_forall_not_mem]
      intro violation hviolation
      exact (hnone violation).1 ⟨parameter, hparameter, value, hvalue, hviolation⟩
  · rintro hvalid violation
    refine ⟨?_, ?_, ?_⟩
    · rintro ⟨parameter, hparameter, value, hvalue, hviolation⟩
      have htyped := hvalid.typed parameter hparameter value hvalue
      rw [← parameter.violations_schema_eq_nil_iff [parameter.name]] at htyped
      rw [htyped] at hviolation
      cases hviolation
    · rintro ⟨entry, hentry, hundeclared, -⟩
      exact hundeclared (hvalid.declared entry hentry)
    · rintro ⟨hmissing, -⟩
      exact hmissing hvalid.complete

/-- Whether the number for some integer parameter is a given integer, but spelled with a point or
an exponent, or too large to be spelled as an integer of 64 bits. -/
def Disguises (tool : Tool) (members : Members) (n : Int) : Prop :=
  ∃ parameter ∈ tool.parameters, parameter.type = .integer ∧ ∃ x,
    Members.find? parameter.name members = some (.number (.real x)) ∧ x.toInt? = some n

theorem Valid.supplied?_eq {tool : Tool} {members : Members} (hvalid : tool.Valid members)
    {parameter : Parameter} (hparameter : parameter ∈ tool.parameters) :
    supplied? members parameter.name = Members.find? parameter.name members := by
  unfold supplied?
  cases hvalue : Members.find? parameter.name members with
  | none => rfl
  | some value =>
      have htype := (hvalid.typed parameter hparameter value hvalue).1
      cases value with
      | null => cases hname : parameter.type <;> simp [hname, isOfType, ParamType.name] at htype
      | _ => rfl

/-- A value that is valid is converted, unless it is an integer beyond reach. -/
theorem Valid.coerce?_isSome {tool : Tool} {members : Members} (hvalid : tool.Valid members)
    (hreach : ∀ n, tool.Disguises members n → n.natAbs < 0x8000000000000000)
    {parameter : Parameter} (hparameter : parameter ∈ tool.parameters) {value : Json}
    (hvalue : Members.find? parameter.name members = some value) :
    ∃ result, parameter.type.coerce? value = some result := by
  have htype := (hvalid.typed parameter hparameter value hvalue).1
  rcases ParamType.admits_or_real_of_isOfType htype with hadmits | ⟨hinteger, x, n, rfl, hwhole⟩
  · exact ⟨value, ParamType.coerce?_of_admits hadmits⟩
  · have hsmall := hreach n ⟨parameter, hparameter, hinteger, x, hvalue, hwhole⟩
    have hwide : ParamType.wholeNumber? x = some ⟨n, by omega, by omega⟩ :=
      (ParamType.wholeNumber?_eq_some_iff x _).mpr ⟨hwhole, hsmall⟩
    rw [hinteger]
    exact ⟨_, Option.map_eq_some_iff.mpr ⟨_, hwide, rfl⟩⟩

theorem Valid.accepts {tool : Tool} {members : Members} (hvalid : tool.Valid members)
    (hreach : ∀ n, tool.Disguises members n → n.natAbs < 0x8000000000000000) :
    tool.Accepts members where
  declared := hvalid.declared
  accepted := by
    intro parameter hparameter
    have hsupplied := hvalid.supplied?_eq hparameter
    cases hvalue : Members.find? parameter.name members with
    | some value =>
        obtain ⟨result, hresult⟩ := hvalid.coerce?_isSome hreach hparameter hvalue
        obtain ⟨htype, hpermits⟩ := hvalid.typed parameter hparameter value hvalue
        exact .supplied (hsupplied.trans hvalue) hresult
          ((tool.coherent hparameter).permits_of_coerce? htype hresult hpermits)
    | none =>
        refine .absent (hsupplied.trans hvalue) ?_
        -- the schema demands every parameter that is required and has no default
        refine Classical.byContradiction fun hdemanded => ?_
        rw [not_or, Option.not_isSome_iff_eq_none, Bool.not_eq_false] at hdemanded
        have hname : parameter.name ∈ tool.demanded := by
          refine List.mem_map.mpr ⟨parameter, List.mem_filter.mpr ⟨hparameter, ?_⟩, rfl⟩
          simp [Parameter.isDemanded, hdemanded.1, hdemanded.2]
        have hfound := hvalid.complete _ hname
        simp [hvalue] at hfound

/-- Where preparing succeeds, what was supplied was converted. -/
theorem Valid.coerce?_of_prepare {tool : Tool} {members : Members} (hvalid : tool.Valid members)
    {arguments : Arguments} (hprepare : tool.prepare (.object members) = .ok arguments)
    {parameter : Parameter} (hparameter : parameter ∈ tool.parameters) {value : Json}
    (hvalue : Members.find? parameter.name members = some value) :
    ∃ result, parameter.type.coerce? value = some result ∧
      Members.find? parameter.name arguments = some result := by
  obtain ⟨supplied, hsupplies, haccepts, hholds⟩ :=
    (tool.prepare_eq_ok_iff_accepts _ arguments).mp hprepare
  obtain rfl : members = supplied := by
    simpa [Supplies] using hsupplies
  have hsupplied := (hvalid.supplied?_eq hparameter).trans hvalue
  rcases haccepts.accepted parameter hparameter with ⟨hgiven, hresult, -⟩ | ⟨hnone, -⟩
  · obtain rfl := Option.some.inj (hsupplied.symm.trans hgiven)
    refine ⟨_, hresult, ?_⟩
    rw [hholds.find?_eq hparameter, Parameter.result?, hgiven]
    exact hresult
  · rw [hsupplied] at hnone
    cases hnone

theorem Valid.find?_of_prepare {tool : Tool} {members : Members} (hvalid : tool.Valid members)
    {arguments : Arguments} (hprepare : tool.prepare (.object members) = .ok arguments)
    {name : String} {value : Json} (hvalue : Members.find? name members = some value) :
    ∃ result, Members.find? name arguments = some result ∧ value.equalValue result := by
  obtain ⟨parameter, hparameter, rfl⟩ := hvalid.declared _ (Members.mem_of_find? hvalue)
  have htype := (hvalid.typed parameter hparameter value hvalue).1
  obtain ⟨result, hresult, hfound⟩ := hvalid.coerce?_of_prepare hprepare hparameter hvalue
  exact ⟨result, hfound, ParamType.equalValue_of_coerce? htype hresult⟩

theorem Valid.natAbs_lt_of_prepare {tool : Tool} {members : Members} (hvalid : tool.Valid members)
    {arguments : Arguments} (hprepare : tool.prepare (.object members) = .ok arguments)
    {n : Int} (hdisguises : tool.Disguises members n) :
    n.natAbs < 0x8000000000000000 := by
  obtain ⟨parameter, hparameter, hinteger, x, hvalue, hwhole⟩ := hdisguises
  obtain ⟨result, hresult, -⟩ := hvalid.coerce?_of_prepare hprepare hparameter hvalue
  rw [hinteger] at hresult
  obtain ⟨whole, hwide, -⟩ := Option.map_eq_some_iff.mp hresult
  obtain ⟨hsame, hsmall⟩ := (ParamType.wholeNumber?_eq_some_iff x whole).mp hwide
  obtain rfl := Option.some.inj (hwhole.symm.trans hsame)
  exact hsmall

/-- Supplied members that are valid against the schema of the arguments are accepted if the
integers that are spelled in another way are below `2 ^ 63` in size, and refused if one of these
is not an integer of 64 bits. What the handler gets equals what was supplied. -/
theorem prepare_of_valid (tool : Tool) (members : Members)
    (hvalid : violations [] (.object members) tool.inputSchema = []) :
    ((∀ n, tool.Disguises members n → n.natAbs < 0x8000000000000000) →
      ∃ arguments, tool.prepare (.object members) = .ok arguments) ∧
    ((∃ n, tool.Disguises members n ∧ (n < -0x8000000000000000 ∨ 0x10000000000000000 ≤ n)) →
      ∃ error, tool.prepare (.object members) = .error error) ∧
    ∀ arguments, tool.prepare (.object members) = .ok arguments →
      ∀ name value, Members.find? name members = some value →
        ∃ result, Members.find? name arguments = some result ∧ value.equalValue result := by
  have hvalid := (tool.valid_iff members).mp hvalid
  refine ⟨fun hreach => ?_, fun hbeyond => ?_, fun arguments hprepare name value hvalue => ?_⟩
  · exact ⟨_, (tool.prepare_eq_ok_iff_accepts _ _).mpr
      ⟨members, Or.inl rfl, hvalid.accepts hreach, (tool.holds_iff members _).mpr rfl⟩⟩
  · obtain ⟨n, hdisguises, hbeyond⟩ := hbeyond
    cases hprepare : tool.prepare (.object members) with
    | error error => exact ⟨error, rfl⟩
    | ok arguments =>
        have hsmall := hvalid.natAbs_lt_of_prepare hprepare hdisguises
        omega
  · exact hvalid.find?_of_prepare hprepare hvalue

/-- The declaration of a tool that counts up to an integer. -/
def countSpec : ToolSpec where
  name := "count"
  parameters := [{ name := "n", type := .integer }]
  handler := .shell { command := ["seq", "\x7bn\x7d"] }

theorem check_countSpec : countSpec.check = .ok () := by
  rw [ToolSpec.check_eq_ok_iff]
  refine ⟨by decide, rfl, ?_, by decide +kernel⟩
  rw [countSpec, Handler.check_shell_eq_ok_iff]
  exact ⟨"seq", _, rfl, by decide, by decide +kernel⟩

def countTool : Tool :=
  { countSpec with source := "", checked := check_countSpec }

/-- Five as it is read from `5.0`. -/
def realFive : Json :=
  .number (.real ⟨false, 5629499534213120, -50, by decide⟩)

/-- An integer that is spelled with a point is handed on. -/
theorem prepare_of_valid_five :
    violations [] (.object [("n", realFive)]) countTool.inputSchema = [] ∧
      ∃ arguments, countTool.prepare (.object [("n", realFive)]) = .ok arguments ∧
        ∃ result, Members.find? "n" arguments = some result ∧ realFive.equalValue result := by
  have hvalid : violations [] (.object [("n", realFive)]) countTool.inputSchema = [] := by
    decide +kernel
  have hreach : ∀ n, countTool.Disguises [("n", realFive)] n → n.natAbs < 0x8000000000000000 := by
    rintro n ⟨parameter, hparameter, -, x, hvalue, hwhole⟩
    obtain rfl := List.mem_singleton.mp hparameter
    obtain rfl : _ = x := Number.real.inj (Json.number.inj (Option.some.inj hvalue))
    obtain rfl : 5 = n := Option.some.inj hwhole
    decide
  obtain ⟨haccepted, -, hequal⟩ := prepare_of_valid countTool _ hvalid
  obtain ⟨arguments, hprepare⟩ := haccepted hreach
  exact ⟨hvalid, arguments, hprepare, hequal arguments hprepare "n" _ rfl⟩

/-- The integer `2 ^ 64` is valid and refused. -/
theorem prepare_refuses_valid :
    ¬ ∀ (tool : Tool) (members : Members),
      violations [] (.object members) tool.inputSchema = [] →
        ∃ arguments, tool.prepare (.object members) = .ok arguments ∧
          ∀ name value, Members.find? name members = some value →
            ∃ result, Members.find? name arguments = some result ∧ value.equalValue result := by
  intro hall
  obtain ⟨arguments, hprepare, -⟩ := hall countTool
    [("n", .number (.real ⟨false, 4503599627370496, 12, by decide⟩))] (by decide +kernel)
  cases hprepare

end Tool

end Toolbench
