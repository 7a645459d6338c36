import Toolbench.Proofs.Environment.Expansion
import Toolbench.Proofs.Invocation.Command
import Toolbench.Proofs.Tool.Preparation

/-!
# Placeholders and prepared arguments

What a tool does depends on the arguments that its filled texts name. Where these are the texts
of its declaration, each name is the name of a parameter, and it is without an argument only if
the parameter may be left out and the caller did so.
-/

namespace Toolbench

open Template (placeholders renderWith_congr render_congr)

variable {left right : Arguments}

/-! ## Filled texts -/

namespace Handler

/-- The texts that arguments are filled into. -/
def filledTexts (environment : Environment) : Handler → List String
  | http handler =>
      environment.expand handler.url ::
        (handler.headers.map (fun header => environment.expand header.2) ++ handler.body.toList)
  | shell handler => handler.command

/-- The texts that arguments are filled into as they are declared, whatever the environment. -/
def settledTexts : Handler → List String
  | http handler =>
      (handler.url :: handler.headers.map (·.2)).filter Environment.isPlain ++
        handler.body.toList
  | shell handler => handler.command

theorem mem_templates_of_mem_settledTexts {handler : Handler} {text : String}
    (htext : text ∈ handler.settledTexts) : text ∈ handler.templates := by
  cases handler with
  | http handler =>
      rcases List.mem_append.mp htext with hplain | hbody
      · have hwritten := (List.mem_filter.mp hplain).1
        rw [templates, ← List.cons_append]
        exact List.mem_append_left _ hwritten
      · rw [templates, ← List.cons_append]
        exact List.mem_append_right _ hbody
  | shell handler => exact htext

theorem mem_filledTexts_of_mem_settledTexts (environment : Environment) {handler : Handler}
    {text : String} (htext : text ∈ handler.settledTexts) :
    text ∈ handler.filledTexts environment := by
  cases handler with
  | http handler =>
      rw [filledTexts, ← List.cons_append]
      rcases List.mem_append.mp htext with hplain | hbody
      · obtain ⟨hwritten, hplain⟩ := List.mem_filter.mp hplain
        have hexpand := Environment.expand_eq_self environment hplain
        have hmap : text ∈ (handler.url :: handler.headers.map (·.2)).map environment.expand :=
          List.mem_map.mpr ⟨text, hwritten, hexpand⟩
        rw [List.map_cons, List.map_map] at hmap
        exact List.mem_append_left _ hmap
      · exact List.mem_append_right _ hbody
  | shell handler => exact htext

/-- All other filled texts come of references to the environment. -/
theorem mem_settledTexts_or_expanded (environment : Environment) {handler : Handler}
    {text : String} (htext : text ∈ handler.filledTexts environment) :
    text ∈ handler.settledTexts ∨
      ∃ template ∈ handler.templates, Environment.isPlain template = false ∧
        text = environment.expand template := by
  cases handler with
  | http handler =>
      -- the address and the header values are expanded first, which may bring in new names
      have hexpanded : ∀ template ∈ handler.url :: handler.headers.map (·.2),
          text = environment.expand template →
            text ∈ (http handler).settledTexts ∨
              ∃ template ∈ (http handler).templates, Environment.isPlain template = false ∧
                text = environment.expand template := by
        intro template htemplate hexpand
        cases hplain : Environment.isPlain template with
        | true =>
            rw [Environment.expand_eq_self environment hplain] at hexpand
            refine .inl (List.mem_append_left _ (List.mem_filter.mpr ⟨?_, ?_⟩))
            · rw [hexpand]
              exact htemplate
            · rw [hexpand]
              exact hplain
        | false =>
            refine .inr ⟨template, ?_, hplain, hexpand⟩
            rw [templates, ← List.cons_append]
            exact List.mem_append_left _ htemplate
      rw [filledTexts, List.mem_cons, List.mem_append, List.mem_map] at htext
      rcases htext with hurl | ⟨header, hheader, hvalue⟩ | hbody
      · exact hexpanded handler.url List.mem_cons_self hurl
      · exact hexpanded header.2 (List.mem_cons_of_mem _ (List.mem_map_of_mem hheader)) hvalue.symm
      · exact .inl (List.mem_append_right _ hbody)
  | shell handler => exact .inl htext

end Handler

/-! ## Dependence on arguments -/

theorem Body.render_congr {template : String}
    (hsame : ∀ name ∈ placeholders template, left.find? name = right.find? name) :
    Body.render template left = Body.render template right := by
  unfold Body.render
  split
  · exact renderWith_congr hsame
  · exact Template.render_congr hsame

theorem Command.keeps_eq_of_same {word : String}
    (hsame : ∀ name ∈ placeholders word, left.find? name = right.find? name) :
    Command.keeps left word = Command.keeps right word := by
  unfold Command.keeps
  cases hsole : Template.sole? word with
  | none => rfl
  | some name =>
      have hname := hsame name (Template.mem_placeholders_of_sole? hsole)
      simp only [Command.isPresent, hname]

theorem Command.render_congr {command : List String}
    (hsame : ∀ word ∈ command, ∀ name ∈ placeholders word, left.find? name = right.find? name) :
    Command.render command left = Command.render command right := by
  have hkept : command.filter (Command.keeps left) = command.filter (Command.keeps right) :=
    List.filter_congr fun word hword => Command.keeps_eq_of_same (hsame word hword)
  rw [Command.render, Command.render, hkept]
  refine List.map_congr_left fun word hword => ?_
  exact Template.render_congr (hsame word (List.mem_filter.mp hword).1)

namespace Request

theorem renderHeaders_congr {environment : Environment} {templates : List (String × String)}
    (hsame : ∀ header ∈ templates, ∀ name ∈ placeholders (environment.expand header.2),
      left.find? name = right.find? name) (headers : Headers) :
    renderHeaders environment left headers templates =
      renderHeaders environment right headers templates := by
  induction templates generalizing headers with
  | nil =>
      rfl
  | cons header rest ih =>
      have hvalue : headerText environment header.2 left = headerText environment header.2 right :=
        Template.render_congr (hsame header List.mem_cons_self)
      have hrest := ih fun other hother => hsame other (List.mem_cons_of_mem _ hother)
      simp only [renderHeaders, hvalue, hrest]

theorem render_congr {environment : Environment} {handler : HttpHandler}
    (hsame : ∀ text ∈ (Handler.http handler).filledTexts environment,
      ∀ name ∈ placeholders text, left.find? name = right.find? name) :
    render environment handler left = render environment handler right := by
  have hurl : renderUrl environment handler.url left = renderUrl environment handler.url right := by
    have htext : urlText (environment.expand handler.url) left =
        urlText (environment.expand handler.url) right :=
      renderWith_congr (hsame _ List.mem_cons_self)
    rw [renderUrl, renderUrl, htext]
  have hheaders : renderHeaders environment left [] handler.headers =
      renderHeaders environment right [] handler.headers := by
    refine renderHeaders_congr (fun header hheader => hsame _ ?_) []
    have hmem := List.mem_map_of_mem (f := fun header => environment.expand header.2) hheader
    exact List.mem_cons_of_mem _ (List.mem_append_left _ hmem)
  have hbody : handler.body.map (fun template => Body.render template left) =
      handler.body.map (fun template => Body.render template right) := by
    refine Option.map_congr fun template htemplate => Body.render_congr (hsame template ?_)
    have hmem : template ∈ handler.body.toList := Option.mem_toList.mpr htemplate
    exact List.mem_cons_of_mem _ (List.mem_append_right _ hmem)
  rw [render, render, hurl, hheaders, hbody]

end Request

namespace Adapter

/-- What a tool does depends on the arguments that its filled texts name. -/
theorem invoke_congr {ω : Type} (host : Host ω) (setting : Setting) (tool : Tool)
    (hsame : ∀ text ∈ tool.handler.filledTexts setting.environment,
      ∀ name ∈ placeholders text, left.find? name = right.find? name) :
    invoke host setting tool left = invoke host setting tool right := by
  unfold invoke invokeHttp invokeShell
  cases hhandler : tool.handler with
  | http handler =>
      rw [hhandler] at hsame
      have hrequest := Request.render_congr hsame
      simp only [callHttp, hrequest]
  | shell handler =>
      rw [hhandler] at hsame
      have hcommand : Command.render handler.command left = Command.render handler.command right :=
        Command.render_congr hsame
      simp only [callShell, hcommand]

end Adapter

/-! ## Prepared arguments -/

/-- The caller gives no value under a name. -/
def LeavesOut (raw : Json) (name : String) : Prop :=
  raw = .null ∨ ∃ members : Json.Members,
    raw = .object members ∧ (members.find? name = none ∨ members.find? name = some .null)

/-- What prepared arguments hold under the name of a parameter. -/
structure Serves (parameter : Parameter) (raw : Json) (arguments : Arguments) : Prop where
  typed : ∀ value, arguments.find? parameter.name = some value →
    value ≠ .null ∧ parameter.type.admits value = true
  present : parameter.required = true ∨ parameter.default.isSome = true →
    ∃ value, arguments.find? parameter.name = some value
  absent : arguments.find? parameter.name = none →
    parameter.required = false ∧ parameter.default = none ∧ LeavesOut raw parameter.name

theorem supplied?_eq_none_iff (members : Json.Members) (name : String) :
    Tool.supplied? members name = none ↔
      members.find? name = none ∨ members.find? name = some .null := by
  unfold Tool.supplied?
  cases members.find? name with
  | none => simp
  | some value => cases value <;> simp [Json.isNull]

theorem serves_of_prepare {tool : Tool} {raw : Json} {arguments : Arguments}
    (hprepare : tool.prepare raw = .ok arguments) {parameter : Parameter}
    (hparameter : parameter ∈ tool.parameters) : Serves parameter raw arguments := by
  obtain ⟨members, hsupplies, haccepts, hholds⟩ :=
    (tool.prepare_eq_ok_iff_accepts raw arguments).mp hprepare
  have hfind := hholds.find?_eq hparameter
  have haccepted := haccepts.accepted parameter hparameter
  -- only a parameter that is spared and has no default is left without a value
  have habsent : arguments.find? parameter.name = none →
      Tool.supplied? members parameter.name = none ∧ parameter.default = none ∧
        parameter.required = false := by
    intro hnone
    rw [hfind, Parameter.result?] at hnone
    rcases haccepted with ⟨hvalue, hresult, -⟩ | ⟨hvalue, hspared⟩
    · simp [hvalue, hresult] at hnone
    · rw [hvalue] at hnone
      exact ⟨hvalue, hnone, by simpa [hnone] using hspared⟩
  refine ⟨?_, ?_, ?_⟩
  · intro value hvalue
    rw [hfind] at hvalue
    have hadmits := (tool.coherent hparameter).result_admitted hvalue
    refine ⟨?_, hadmits⟩
    rintro rfl
    cases ParamType.isNull_of_admits hadmits
  · intro hkept
    cases hnone : arguments.find? parameter.name with
    | some value => exact ⟨value, rfl⟩
    | none =>
        obtain ⟨-, hdefault, hoptional⟩ := habsent hnone
        simp [hdefault, hoptional] at hkept
  · intro hnone
    obtain ⟨hvalue, hdefault, hoptional⟩ := habsent hnone
    refine ⟨hoptional, hdefault, ?_⟩
    have hleft := (supplied?_eq_none_iff members parameter.name).mp hvalue
    rcases hsupplies with hobject | ⟨hnull, -⟩
    · exact .inr ⟨members, hobject, hleft⟩
    · exact .inl hnull

/-- In every text that is filled as it is declared, each placeholder names a parameter, whose
argument is there and of its type unless the parameter is optional, has no default and was left
out. All other filled texts come of references to the environment, and no argument that no
filled text names makes a difference. -/
theorem placeholders_covered (tool : Tool) {raw : Json} {arguments : Arguments}
    (hprepare : tool.prepare raw = .ok arguments) (environment : Environment) :
    (∀ text ∈ tool.handler.settledTexts, text ∈ tool.handler.filledTexts environment ∧
      ∀ name ∈ placeholders text, ∃ parameter ∈ tool.parameters, parameter.name = name ∧
        Serves parameter raw arguments) ∧
    (∀ text ∈ tool.handler.filledTexts environment, text ∈ tool.handler.settledTexts ∨
      ∃ template ∈ tool.handler.templates, Environment.isPlain template = false ∧
        text = environment.expand template) ∧
    ∀ (ω : Type) (host : Adapter.Host ω) (limits : Adapter.Limits) (others : Arguments),
      (∀ text ∈ tool.handler.filledTexts environment, ∀ name ∈ placeholders text,
        others.find? name = arguments.find? name) →
      Adapter.invoke host { limits, environment } tool others =
        Adapter.invoke host { limits, environment } tool arguments := by
  refine ⟨?_, ?_, ?_⟩
  · intro text htext
    refine ⟨Handler.mem_filledTexts_of_mem_settledTexts environment htext, ?_⟩
    intro name hname
    have htemplate := Handler.mem_templates_of_mem_settledTexts htext
    obtain ⟨parameter, hparameter, hsame⟩ := tool.placeholders_declared text htemplate name hname
    exact ⟨parameter, hparameter, hsame, serves_of_prepare hprepare hparameter⟩
  · intro text htext
    exact Handler.mem_settledTexts_or_expanded environment htext
  · intro ω host limits others hsame
    exact Adapter.invoke_congr host { limits, environment } tool hsame

/-- A word that is left out is the placeholder of an optional parameter that was left out. -/
theorem placeholders_covered_place :
    ∃ parameter ∈ Command.sampleTool.parameters, parameter.name = "place" ∧
      Serves parameter (.object [("text", .string "x")]) [("text", .string "x")] := by
  have hprepare : Command.sampleTool.prepare (.object [("text", .string "x")]) =
      .ok [("text", .string "x")] := by
    rfl
  have hname : "place" ∈ placeholders "\x7bplace\x7d" := by
    decide +kernel
  obtain ⟨hcovered, -, -⟩ := placeholders_covered Command.sampleTool hprepare []
  exact (hcovered "\x7bplace\x7d" (by decide)).2 "place" hname

end Toolbench
