import Mathlib
import Toolbench.Proofs.Tool.Conformance

/-!
# Prepared arguments are prepared

Preparing arguments a second time changes nothing. A converted value has its type as it stands
and is permitted already, a default that is supplied is one of the values that may be supplied,
and what is absent from prepared arguments was spared from the start.
-/

namespace Toolbench

open Json

namespace Tool

variable {tool : Tool} {members : Members} {arguments : Arguments}

/-- What prepared arguments supply for a parameter is the value that it got. -/
theorem Holds.supplied?_eq (hholds : tool.Holds members arguments) {parameter : Parameter}
    (hparameter : parameter ∈ tool.parameters) :
    supplied? arguments parameter.name = parameter.result? members := by
  unfold supplied?
  rw [hholds.find?_eq hparameter]
  cases hresult : parameter.result? members with
  | none => rfl
  | some value =>
      have hadmits := (tool.coherent hparameter).result_admitted hresult
      have hpresent := ParamType.isNull_of_admits hadmits
      simp [hpresent]

/-- A parameter that suits what was supplied and gets no value is one that may stay absent. -/
theorem spared_of_result?_eq_none {parameter : Parameter} (hsuits : parameter.Suits members)
    (hresult : parameter.result? members = none) :
    parameter.default = none ∧ parameter.required = false := by
  cases hsuits with
  | supplied hvalue hconverted =>
      simp [Parameter.result?, hvalue, hconverted] at hresult
  | absent hvalue hspared =>
      have hdefault : parameter.default = none := by
        simpa [Parameter.result?, hvalue] using hresult
      exact ⟨hdefault, by simpa [hdefault] using hspared⟩

/-- A parameter gets from prepared arguments the value that it got before. -/
theorem Holds.result?_eq (hholds : tool.Holds members arguments) {parameter : Parameter}
    (hparameter : parameter ∈ tool.parameters) (hsuits : parameter.Suits members) :
    parameter.result? arguments = parameter.result? members := by
  have hsupplied := hholds.supplied?_eq hparameter
  cases hresult : parameter.result? members with
  | none =>
      rw [hresult] at hsupplied
      have hspared := spared_of_result?_eq_none hsuits hresult
      simp [Parameter.result?, hsupplied, hspared.1]
  | some value =>
      rw [hresult] at hsupplied
      have hadmits := (tool.coherent hparameter).result_admitted hresult
      have hconverted := ParamType.coerce?_of_admits hadmits
      simp [Parameter.result?, hsupplied, hconverted]

theorem Holds.suits (hholds : tool.Holds members arguments) {parameter : Parameter}
    (hparameter : parameter ∈ tool.parameters) (hsuits : parameter.Suits members) :
    parameter.Suits arguments := by
  have hsupplied := hholds.supplied?_eq hparameter
  cases hresult : parameter.result? members with
  | none =>
      rw [hresult] at hsupplied
      have hspared := spared_of_result?_eq_none hsuits hresult
      exact .absent hsupplied (Or.inr hspared.2)
  | some value =>
      rw [hresult] at hsupplied
      have hadmits := (tool.coherent hparameter).result_admitted hresult
      exact .supplied hsupplied (ParamType.coerce?_of_admits hadmits)

theorem Holds.accepts (hholds : tool.Holds members arguments) (haccepts : tool.Accepts members) :
    tool.Accepts arguments := by
  have hparts := (tool.accepts_iff members).mp haccepts
  have hsuits := hparts.2.1
  have hpermits := hparts.2.2
  refine (tool.accepts_iff arguments).mpr ⟨?_, ?_, ?_⟩
  · rw [unknownName?_eq_none_iff]
    rintro ⟨name, value⟩ hmem
    have hentry := (hholds.mem_iff name value).mp hmem
    exact hentry.imp fun parameter h => ⟨h.1, h.2.1⟩
  · intro parameter hparameter
    exact hholds.suits hparameter (hsuits parameter hparameter)
  · intro parameter hparameter value hresult
    rw [hholds.result?_eq hparameter (hsuits parameter hparameter)] at hresult
    exact hpermits parameter hparameter value hresult

/-- Prepared arguments hold what each parameter gets from them. -/
theorem Holds.self (hholds : tool.Holds members arguments) (haccepts : tool.Accepts members) :
    tool.Holds arguments arguments where
  ordered := hholds.ordered
  mem_iff := by
    intro name value
    have hsuits := ((tool.accepts_iff members).mp haccepts).2.1
    rw [hholds.mem_iff]
    constructor
    · rintro ⟨parameter, hparameter, hname, hresult⟩
      have hsame := hholds.result?_eq hparameter (hsuits parameter hparameter)
      exact ⟨parameter, hparameter, hname, hsame.trans hresult⟩
    · rintro ⟨parameter, hparameter, hname, hresult⟩
      have hsame := hholds.result?_eq hparameter (hsuits parameter hparameter)
      exact ⟨parameter, hparameter, hname, hsame.symm.trans hresult⟩

/-- Prepared arguments are prepared to themselves. -/
theorem prepare_prepared (tool : Tool) (raw : Json) (arguments : Arguments)
    (hprepare : tool.prepare raw = .ok arguments) :
    tool.prepare (.object arguments) = .ok arguments := by
  obtain ⟨members, -, haccepts, hholds⟩ :=
    (tool.prepare_eq_ok_iff_accepts raw arguments).mp hprepare
  refine (tool.prepare_eq_ok_iff_accepts (.object arguments) arguments).mpr ?_
  exact ⟨arguments, Or.inl rfl, hholds.accepts haccepts, hholds.self haccepts⟩

/-- The declaration of a tool with a demanded parameter, one with a default and an optional one. -/
def searchSpec : ToolSpec where
  name := "search"
  parameters := [
    { name := "query", required := true },
    { name := "limit", type := .integer, default := some (.ofNat 10) },
    { name := "exact", type := .boolean }]
  handler := .shell { command := ["grep", "\x7bquery\x7d"] }

theorem check_searchSpec : searchSpec.check = .ok () := by
  rw [ToolSpec.check_eq_ok_iff]
  refine ⟨by decide, rfl, ?_, by decide +kernel⟩
  rw [searchSpec, Handler.check_shell_eq_ok_iff]
  exact ⟨"grep", _, rfl, by decide, by decide +kernel⟩

def searchTool : Tool :=
  { searchSpec with source := "", checked := check_searchSpec }

/-- The text of a number and a default stand when they are supplied again, and what was left out
stays out. -/
theorem prepare_prepared_search :
    searchTool.prepare (.object [("query", .ofNat 7)]) =
        .ok [("limit", .ofNat 10), ("query", .string "7")] ∧
      searchTool.prepare (.object [("limit", .ofNat 10), ("query", .string "7")]) =
        .ok [("limit", .ofNat 10), ("query", .string "7")] := by
  have hprepare : searchTool.prepare (.object [("query", .ofNat 7)]) =
      .ok [("limit", .ofNat 10), ("query", .string "7")] := by
    cbv
  exact ⟨hprepare, prepare_prepared searchTool _ _ hprepare⟩

end Tool

end Toolbench
