import Toolbench.Adapter.Invocation
import Toolbench.Proofs.Template.Filling
import Toolbench.Proofs.Tool.Declaration

/-!
# Arguments of commands

The program of a command is the handler's own, and each of its words becomes one word or, if it
is nothing but the placeholder of an absent argument, none. What the arguments hold makes no
difference to that.
-/

namespace Toolbench

namespace Command

open Template (spelling placeholders)

/-- How a command is filled, word by word. -/
inductive Fills (arguments : Arguments) : List String → List String → Prop where
  | done : Fills arguments [] []
  | dropped {name : String} {command words : List String}
      (hname : Name.isIdentifier name.toList)
      (habsent : arguments.find? name = none ∨ arguments.find? name = some .null)
      (hrest : Fills arguments command words) :
      Fills arguments (String.ofList (spelling (.placeholder name.toList)) :: command) words
  | kept {word : String} {command words : List String}
      (hpresent : ∀ name : String, Name.isIdentifier name.toList →
        word = String.ofList (spelling (.placeholder name.toList)) →
          ∃ value, arguments.find? name = some value ∧ value ≠ .null)
      (hrest : Fills arguments command words) :
      Fills arguments (word :: command) (Template.render word arguments :: words)

theorem isPresent_eq_true_iff (arguments : Arguments) (name : String) :
    isPresent arguments name = true ↔
      ∃ value, arguments.find? name = some value ∧ value ≠ .null := by
  unfold isPresent
  cases arguments.find? name with
  | none => simp
  | some value => cases value <;> simp [Json.isNull]

theorem isPresent_eq_false_iff (arguments : Arguments) (name : String) :
    isPresent arguments name = false ↔
      arguments.find? name = none ∨ arguments.find? name = some .null := by
  unfold isPresent
  cases arguments.find? name with
  | none => simp
  | some value => cases value <;> simp [Json.isNull]

/-- Only the placeholder of an absent argument is left out. -/
theorem keeps_eq_false_iff (arguments : Arguments) (word : String) :
    keeps arguments word = false ↔
      ∃ name, Template.sole? word = some name ∧ isPresent arguments name = false := by
  unfold keeps
  cases Template.sole? word <;> simp

theorem fills_render (command : List String) (arguments : Arguments) :
    Fills arguments command (render command arguments) := by
  induction command with
  | nil =>
      exact .done
  | cons word rest ih =>
      unfold render at ih ⊢
      cases hkeeps : keeps arguments word with
      | false =>
          obtain ⟨name, hsole, habsent⟩ := (keeps_eq_false_iff arguments word).mp hkeeps
          obtain ⟨hname, rfl⟩ := (Template.sole?_eq_some_iff word name).mp hsole
          rw [List.filter_cons_of_neg (by simp [hkeeps])]
          exact .dropped hname ((isPresent_eq_false_iff arguments name).mp habsent) ih
      | true =>
          rw [List.filter_cons_of_pos hkeeps, List.map_cons]
          refine .kept (fun name hname hword => ?_) ih
          have hsole := (Template.sole?_eq_some_iff word name).mpr ⟨hname, hword⟩
          rw [← isPresent_eq_true_iff, ← Bool.not_eq_false]
          intro habsent
          rw [(keeps_eq_false_iff arguments word).mpr ⟨name, hsole, habsent⟩] at hkeeps
          cases hkeeps

theorem keeps_of_no_placeholder {word : String} (hnone : placeholders word = [])
    (arguments : Arguments) : keeps arguments word = true := by
  rw [← Bool.not_eq_false, keeps_eq_false_iff]
  rintro ⟨name, hsole, -⟩
  have hname := Template.mem_placeholders_of_sole? hsole
  rw [hnone] at hname
  cases hname

theorem keeps_congr {left right : Arguments}
    (hsame : ∀ name, isPresent left name = isPresent right name) : keeps left = keeps right := by
  funext word
  unfold keeps
  simp only [hsame]

/-- Arguments that are there under the same names keep the same words, and what they hold makes
no difference to a word without placeholders. -/
theorem render_of_keeps_eq {left right : Arguments} (command : List String)
    (hkeeps : keeps left = keeps right) :
    ∃ kept : List String, kept.Sublist command ∧
      render command left = kept.map (fun word => Template.render word left) ∧
      render command right = kept.map (fun word => Template.render word right) ∧
      ∀ (place : Nat) (word : String), kept[place]? = some word → placeholders word = [] →
        (render command left)[place]? = some word ∧
          (render command right)[place]? = some word := by
  refine ⟨command.filter (keeps left), List.filter_sublist, rfl, ?_, ?_⟩
  · rw [render, hkeeps]
  · intro place word hword hnone
    have hleft := Template.render_eq_self hnone left
    have hright := Template.render_eq_self hnone right
    constructor
    · rw [render, List.getElem?_map, hword, Option.map_some, hleft]
    · rw [render, List.getElem?_map, ← hkeeps, hword, Option.map_some, hright]

theorem render_program {program : String} (hnone : placeholders program = [])
    (words : List String) (arguments : Arguments) :
    render (program :: words) arguments = program :: render words arguments := by
  have hkeeps := keeps_of_no_placeholder hnone arguments
  rw [render, List.filter_cons_of_pos hkeeps, List.map_cons, Template.render_eq_self hnone, render]

theorem shellOutcome_ne_emptyCommand (program name : String) (maxOutputBytes timeoutMillis : Nat)
    (ended : RunEnd) :
    Adapter.shellOutcome program maxOutputBytes timeoutMillis ended ≠
      .error (.emptyCommand name) := by
  unfold Adapter.shellOutcome
  split
  case h_4 => split <;> simp
  all_goals simp

theorem callShell_ne_emptyCommand {ω : Type} (host : Adapter.Host ω) (setting : Adapter.Setting)
    (tool : String) {handler : ShellHandler} {arguments : Arguments} {program : String}
    {words : List String} (hrender : render handler.command arguments = program :: words)
    (world : ω) (name : String) :
    ((Adapter.callShell host setting tool handler arguments).run world).1 ≠
      .error (.emptyCommand name) := by
  unfold Adapter.callShell
  rw [hrender]
  exact shellOutcome_ne_emptyCommand _ _ _ _ _

/-- A command starts with its program and has its words filled one by one. Arguments that are
there under the same names fill it with as many words, which agree wherever there is no
placeholder; and there always is a program to run. -/
theorem render_wordwise (tool : Tool) {handler : ShellHandler}
    (hhandler : tool.handler = .shell handler) :
    (∀ arguments, Fills arguments handler.command (render handler.command arguments) ∧
      ∃ program, handler.command.head? = some program ∧
        (render handler.command arguments).head? = some program) ∧
    (∀ left right, (∀ name, isPresent left name = isPresent right name) →
      (render handler.command left).length = (render handler.command right).length ∧
      ∃ kept : List String, kept.Sublist handler.command ∧
        render handler.command left = kept.map (fun word => Template.render word left) ∧
        render handler.command right = kept.map (fun word => Template.render word right) ∧
        ∀ (place : Nat) (word : String), kept[place]? = some word → placeholders word = [] →
          (render handler.command left)[place]? = some word ∧
            (render handler.command right)[place]? = some word) ∧
    ∀ (ω : Type) (host : Adapter.Host ω) (setting : Adapter.Setting) (arguments : Arguments)
      (world : ω) (name : String),
      ((Adapter.invoke host setting tool arguments).run world).1 ≠ .error (.emptyCommand name) := by
  have hcheck := tool.handler_checked
  rw [hhandler] at hcheck
  obtain ⟨program, words, hcommand, -, hnone⟩ := (Handler.check_shell_eq_ok_iff handler).mp hcheck
  have hrender : ∀ arguments,
      render handler.command arguments = program :: render words arguments := by
    intro arguments
    rw [hcommand]
    exact render_program hnone words arguments
  refine ⟨?_, ?_, ?_⟩
  · intro arguments
    refine ⟨fills_render handler.command arguments, program, ?_, ?_⟩
    · rw [hcommand, List.head?_cons]
    · rw [hrender arguments, List.head?_cons]
  · intro left right hsame
    obtain ⟨kept, hsublist, hleft, hright, hagree⟩ :=
      render_of_keeps_eq handler.command (keeps_congr hsame)
    refine ⟨?_, kept, hsublist, hleft, hright, hagree⟩
    rw [hleft, hright, List.length_map, List.length_map]
  · intro ω host setting arguments world name hempty
    have hcall := callShell_ne_emptyCommand host setting tool.name (hrender arguments) world
    unfold Adapter.invoke Adapter.invokeShell at hempty
    simp only [hhandler] at hempty
    have hresult : ((Adapter.callShell host setting tool.name handler arguments).run world).1.map
        Adapter.Output.shell = .error (.emptyCommand name) := hempty
    cases hran : ((Adapter.callShell host setting tool.name handler arguments).run world).1 with
    | error fault =>
        rw [hran] at hresult
        exact hcall name (hran.trans (congrArg Except.error (Except.error.inj hresult)))
    | ok output =>
        rw [hran] at hresult
        cases hresult

/-- The declaration of a tool that prints a message, to a place that may be left open. -/
def sampleSpec : ToolSpec where
  name := "print"
  parameters := [{ name := "text", required := true }, { name := "place" }]
  handler := .shell { command := ["print", "\x7btext\x7d", "--", "\x7bplace\x7d"] }

theorem check_sampleSpec : sampleSpec.check = .ok () := by
  rw [ToolSpec.check_eq_ok_iff]
  refine ⟨by decide, rfl, ?_, by decide +kernel⟩
  rw [sampleSpec, Handler.check_shell_eq_ok_iff]
  exact ⟨"print", _, rfl, by decide, by decide +kernel⟩

def sampleTool : Tool :=
  { sampleSpec with source := "", checked := check_sampleSpec }

/-- Quotes, blanks and braces in an argument stay in its word, and what is absent has none. -/
theorem render_wordwise_marks :
    ∃ kept : List String, kept.Sublist ["print", "\x7btext\x7d", "--", "\x7bplace\x7d"] ∧
      ["print", "'; \x7bplace\x7d $(x)", "--"] = kept.map (fun word =>
        Template.render word [("text", .string "'; \x7bplace\x7d $(x)")]) ∧
      ["print", "", "--"] = kept.map (fun word => Template.render word [("text", .string "")]) := by
  have hpresent : ∀ name, isPresent [("text", .string "'; \x7bplace\x7d $(x)")] name =
      isPresent [("text", .string "")] name := by
    intro name
    by_cases hname : "text" = name
    · rw [← hname]
      decide
    · simp [isPresent, Json.Members.find?, hname]
  obtain ⟨-, kept, hsublist, hleft, hright, -⟩ := (render_wordwise sampleTool rfl).2.1 _ _ hpresent
  have hfirst : render ["print", "\x7btext\x7d", "--", "\x7bplace\x7d"]
      [("text", .string "'; \x7bplace\x7d $(x)")] = ["print", "'; \x7bplace\x7d $(x)", "--"] := by
    decide +kernel
  have hsecond : render ["print", "\x7btext\x7d", "--", "\x7bplace\x7d"]
      [("text", .string "")] = ["print", "", "--"] := by
    decide +kernel
  exact ⟨kept, hsublist, hfirst.symm.trans hleft, hsecond.symm.trans hright⟩

end Command

end Toolbench
