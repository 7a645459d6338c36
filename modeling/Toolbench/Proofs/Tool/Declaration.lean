import Toolbench.Tool.Definition

/-!
# What a declared tool promises

The checks of a declaration leave parameters with different names, whose defaults and
allowed values have the type of their parameter and agree with each other.  Each placeholder
names one of them, and the program of a command holds none.
-/

namespace Toolbench

namespace Parameter

/-- What the checks of one parameter leave. -/
structure Coherent (parameter : Parameter) : Prop where
  default_admitted : ∀ value, parameter.default = some value → parameter.type.admits value
  allowed_admitted : ∀ values, parameter.allowed = some values →
    ∀ value ∈ values, parameter.type.admits value
  default_allowed : ∀ values value, parameter.allowed = some values →
    parameter.default = some value → holds values value

theorem coherent_of_check {parameter : Parameter} (hcheck : parameter.check = .ok ()) :
    parameter.Coherent := by
  unfold check at hcheck
  simp only [bind, Except.bind, pure, Except.pure, throw, throwThe, MonadExceptOf.throw]
    at hcheck
  split at hcheck
  · cases hcheck
  · cases hallowed : parameter.allowed with
    | none =>
        refine ⟨?_, by simp [hallowed], by simp [hallowed]⟩
        intro value hdefault
        cases hadmits : parameter.type.admits value with
        | true => rfl
        | false => simp [hdefault, hadmits] at hcheck
    | some values =>
        -- an empty list and a value of another type are each refused, with a default or without
        have hnone : values.find? (fun value => !parameter.type.admits value) = none := by
          cases hwrong : values.find? (fun value => !parameter.type.admits value) with
          | none => rfl
          | some wrong =>
              cases values with
              | nil => simp at hwrong
              | cons first rest =>
                  simp only [hallowed, hwrong] at hcheck
                  split at hcheck
                  · split at hcheck <;> cases hcheck
                  · cases hcheck
        have hadmitted : ∀ value ∈ values, parameter.type.admits value := by
          simpa using hnone
        cases hdefault : parameter.default with
        | none =>
            exact ⟨by simp [hdefault], by simpa [hallowed] using hadmitted, by simp [hdefault]⟩
        | some value =>
            cases values with
            | nil =>
                simp only [hallowed, hdefault] at hcheck
                split at hcheck <;> cases hcheck
            | cons first rest =>
                simp only [hallowed, hdefault, hnone] at hcheck
                split at hcheck
                · cases hcheck
                · rename_i hadmits
                  split at hcheck
                  · cases hcheck
                  · rename_i hholds
                    refine ⟨?_, by simpa [hallowed] using hadmitted, ?_⟩
                    · simpa [hdefault] using hadmits
                    · simpa [hallowed, hdefault] using hholds

theorem isIdentifier_of_check {parameter : Parameter} (hcheck : parameter.check = .ok ()) :
    Name.isIdentifier parameter.name.toList := by
  unfold check at hcheck
  simp only [bind, Except.bind, throw, throwThe, MonadExceptOf.throw] at hcheck
  split at hcheck
  · cases hcheck
  · rename_i hname
    simpa using hname

theorem find?_name_eq_some_iff {parameters : List Parameter}
    (hdistinct : parameters.Pairwise fun earlier later => earlier.name ≠ later.name)
    (name : String) (parameter : Parameter) :
    (parameters.find? fun candidate => candidate.name == name) = some parameter ↔
      parameter ∈ parameters ∧ parameter.name = name := by
  induction parameters with
  | nil =>
      simp
  | cons first rest ih =>
      obtain ⟨hfirst, hrest⟩ := List.pairwise_cons.mp hdistinct
      by_cases hname : first.name = name
      · simp only [List.find?_cons, hname, beq_self_eq_true, Option.some.injEq]
        constructor
        · rintro rfl
          exact ⟨List.mem_cons_self, hname⟩
        · rintro ⟨hmem, hsame⟩
          rcases List.mem_cons.mp hmem with rfl | hmem
          · rfl
          · exact absurd (hname.trans hsame.symm) (hfirst parameter hmem)
      · have hne : (first.name == name) = false := by
          simpa using hname
        rw [List.find?_cons_of_neg (by simp [hne]), ih hrest]
        constructor
        · rintro ⟨hmem, hsame⟩
          exact ⟨List.mem_cons_of_mem _ hmem, hsame⟩
        · rintro ⟨hmem, hsame⟩
          rcases List.mem_cons.mp hmem with rfl | hmem
          · exact absurd hsame hname
          · exact ⟨hmem, hsame⟩

end Parameter

namespace ToolSpec

theorem checkParameters_ok {tool : String} {seen : List String} {parameters : List Parameter}
    (hcheck : checkParameters tool seen parameters = .ok ()) :
    (∀ parameter ∈ parameters, parameter.Coherent ∧ parameter.name ∉ seen) ∧
      parameters.Pairwise fun earlier later => earlier.name ≠ later.name := by
  induction parameters generalizing seen with
  | nil =>
      simp
  | cons parameter rest ih =>
      unfold checkParameters at hcheck
      split at hcheck
      · cases hcheck
      · rename_i hparameter
        split at hcheck
        · cases hcheck
        · rename_i hseen
          obtain ⟨hrest, hdistinct⟩ := ih hcheck
          refine ⟨?_, List.pairwise_cons.mpr ⟨?_, hdistinct⟩⟩
          · intro other hother
            rcases List.mem_cons.mp hother with rfl | hother
            · exact ⟨Parameter.coherent_of_check hparameter, by simpa using hseen⟩
            · obtain ⟨hcoherent, hfresh⟩ := hrest other hother
              exact ⟨hcoherent, fun h => hfresh (List.mem_cons_of_mem _ h)⟩
          · intro other hother heq
            exact (hrest other hother).2 (by simp [heq])

theorem check_of_checkParameters {tool : String} {seen : List String}
    {parameters : List Parameter} (hcheck : checkParameters tool seen parameters = .ok ()) :
    ∀ parameter ∈ parameters, parameter.check = .ok () := by
  induction parameters generalizing seen with
  | nil =>
      simp
  | cons parameter rest ih =>
      unfold checkParameters at hcheck
      split at hcheck
      · cases hcheck
      · rename_i hparameter
        split at hcheck
        · cases hcheck
        · exact List.forall_mem_cons.mpr ⟨hparameter, ih hcheck⟩

theorem check_eq_ok_iff (spec : ToolSpec) :
    spec.check = .ok () ↔
      Name.isToolName spec.name.toList = true ∧
        checkParameters spec.name [] spec.parameters = .ok () ∧
        spec.handler.check = .ok () ∧ spec.unknownPlaceholder? = none := by
  unfold check
  simp only [bind, Except.bind, pure, Except.pure, throw, throwThe, MonadExceptOf.throw]
  cases Name.isToolName spec.name.toList with
  | false => simp
  | true =>
      cases checkParameters spec.name [] spec.parameters with
      | error fault => simp
      | ok _ =>
          cases spec.handler.check with
          | error fault => simp
          | ok _ => cases spec.unknownPlaceholder? <;> simp

theorem unknownPlaceholder?_eq_none_iff (spec : ToolSpec) :
    spec.unknownPlaceholder? = none ↔
      ∀ template ∈ spec.handler.templates, ∀ name ∈ Template.placeholders template,
        ∃ parameter ∈ spec.parameters, parameter.name = name := by
  rw [unknownPlaceholder?, List.find?_eq_none]
  simp only [List.mem_flatMap, parameterNames, Bool.not_eq_true', Bool.not_eq_false,
    List.contains_iff_mem, List.mem_map]
  constructor
  · intro hknown template htemplate name hname
    exact hknown name ⟨template, htemplate, hname⟩
  · rintro hknown name ⟨template, htemplate, hname⟩
    exact hknown template htemplate name hname

end ToolSpec

namespace Handler

/-- A command starts with a program, which holds no placeholder. -/
theorem check_shell_eq_ok_iff (handler : ShellHandler) :
    check (.shell handler) = .ok () ↔
      ∃ program words, handler.command = program :: words ∧
        Text.isBlankText program = false ∧ Template.placeholders program = [] := by
  unfold check
  simp only [bind, Except.bind, pure, Except.pure, throw, throwThe, MonadExceptOf.throw]
  cases handler.command with
  | nil => simp
  | cons program words =>
      cases hblank : Text.isBlankText program with
      | true => simp [hblank]
      | false => cases hnames : Template.placeholders program <;> simp [hblank, hnames]

end Handler

namespace Tool

theorem checkParameters_checked (tool : Tool) :
    ToolSpec.checkParameters tool.name [] tool.parameters = .ok () :=
  (tool.check_eq_ok_iff.mp tool.checked).2.1

theorem handler_checked (tool : Tool) : tool.handler.check = .ok () :=
  (tool.check_eq_ok_iff.mp tool.checked).2.2.1

theorem placeholders_declared (tool : Tool) :
    ∀ template ∈ tool.handler.templates, ∀ name ∈ Template.placeholders template,
      ∃ parameter ∈ tool.parameters, parameter.name = name :=
  tool.unknownPlaceholder?_eq_none_iff.mp (tool.check_eq_ok_iff.mp tool.checked).2.2.2

theorem coherent (tool : Tool) {parameter : Parameter} (hparameter : parameter ∈ tool.parameters) :
    parameter.Coherent :=
  ((ToolSpec.checkParameters_ok tool.checkParameters_checked).1 parameter hparameter).1

theorem isIdentifier_name (tool : Tool) {parameter : Parameter}
    (hparameter : parameter ∈ tool.parameters) : Name.isIdentifier parameter.name.toList :=
  Parameter.isIdentifier_of_check
    (ToolSpec.check_of_checkParameters tool.checkParameters_checked parameter hparameter)

theorem names_distinct (tool : Tool) :
    tool.parameters.Pairwise fun earlier later => earlier.name ≠ later.name :=
  (ToolSpec.checkParameters_ok tool.checkParameters_checked).2

/-- Under a name stands the one parameter of that name. -/
theorem parameter?_eq_some_iff (tool : Tool) (name : String) (parameter : Parameter) :
    tool.parameter? name = some parameter ↔
      parameter ∈ tool.parameters ∧ parameter.name = name :=
  Parameter.find?_name_eq_some_iff tool.names_distinct name parameter

end Tool

end Toolbench
