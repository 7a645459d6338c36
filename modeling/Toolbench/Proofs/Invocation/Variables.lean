import Toolbench.Adapter.Invocation
import Toolbench.Proofs.Environment.Expansion

/-!
# Variables in requests and commands

A request takes from the environment what its address and its header values refer to, before
any argument is filled in. So no argument can name a variable, and neither the body of a request
nor the words of a command depend on the environment.
-/

namespace Toolbench

namespace HttpHandler

/-- The variables that the address and the header values refer to. -/
def references (handler : HttpHandler) : List String :=
  Environment.references handler.url ++
    handler.headers.flatMap fun header => Environment.references header.2

/-- The handler with its address and its header values expanded. -/
def expanded (environment : Environment) (handler : HttpHandler) : HttpHandler :=
  { handler with
    url := environment.expand handler.url
    headers := environment.expandAll handler.headers }

theorem expanded_congr {left right : Environment} {handler : HttpHandler}
    (hsame : ∀ name ∈ handler.references, left.get? name = right.get? name) :
    handler.expanded left = handler.expanded right := by
  have hurl : left.expand handler.url = right.expand handler.url := by
    refine Environment.expand_congr fun name hname => hsame name ?_
    exact List.mem_append_left _ hname
  have hheaders : left.expandAll handler.headers = right.expandAll handler.headers := by
    refine List.map_congr_left fun header hheader => ?_
    have hvalue : left.expand header.2 = right.expand header.2 := by
      refine Environment.expand_congr fun name hname => hsame name ?_
      exact List.mem_append_right _ (List.mem_flatMap.mpr ⟨header, hheader, hname⟩)
    exact congrArg (Prod.mk header.1) hvalue
  rw [expanded, expanded, hurl, hheaders]

end HttpHandler

/-- The program of a launch in front of its arguments. -/
def Launch.words (launch : Launch) : List String :=
  launch.program :: launch.arguments

namespace Adapter

/-- A host that keeps what it is asked to run. -/
def Host.recorder (exchange : Request → Exchange) (ending : Launch → RunEnd) :
    Host (List Launch) where
  exchange request _ := pure (exchange request)
  run launch := do
    modify (· ++ [launch])
    return ending launch

/-- Of a command its words are run and nothing else, if there are any. -/
theorem words_callShell (exchange : Request → Exchange) (ending : Launch → RunEnd)
    (setting : Setting) (tool : String) (handler : ShellHandler) (arguments : Arguments) :
    ((callShell (.recorder exchange ending) setting tool handler arguments).run []).2.map
        Launch.words =
      [Command.render handler.command arguments].filter (!·.isEmpty) := by
  unfold callShell
  cases Command.render handler.command arguments with
  | nil => rfl
  | cons program words => rfl

end Adapter

namespace Request

theorem renderHeaders_expandAll (environment : Environment) (arguments : Arguments)
    (headers : Headers) (templates : List (String × String)) :
    renderHeaders environment arguments headers templates =
      renderHeaders [] arguments headers (environment.expandAll templates) := by
  induction templates generalizing headers with
  | nil =>
      rfl
  | cons header rest ih =>
      have hvalue : headerText environment header.2 arguments =
          headerText [] (environment.expand header.2) arguments := by
        rw [headerText, headerText, Environment.expand_nil]
      have hrest := fun headers => ih headers
      simp only [Environment.expandAll] at hrest
      simp only [Environment.expandAll, List.map_cons, renderHeaders, hvalue, hrest]

theorem render_expanded (environment : Environment) (handler : HttpHandler)
    (arguments : Arguments) :
    render environment handler arguments = render [] (handler.expanded environment) arguments := by
  have hurl : renderUrl environment handler.url arguments =
      renderUrl [] (environment.expand handler.url) arguments := by
    rw [renderUrl, renderUrl, Environment.expand_nil]
  rw [render, render, hurl, renderHeaders_expandAll]
  rfl

theorem render_eq_ok_iff (environment : Environment) (handler : HttpHandler)
    (arguments : Arguments) (request : Request) :
    render environment handler arguments = .ok request ↔
      Header.isToken handler.method = true ∧
      renderUrl environment handler.url arguments = .ok request.url ∧
      request.method = handler.method ∧
      request.body = handler.body.map (fun template => Body.render template arguments) ∧
      ∃ headers, renderHeaders environment arguments [] handler.headers = .ok headers ∧
        request.headers = markJson headers request.body := by
  simp only [render, bind, Except.bind, throw, throwThe, MonadExceptOf.throw]
  cases Header.isToken handler.method with
  | false => simp
  | true =>
      cases renderUrl environment handler.url arguments with
      | error fault => simp
      | ok url =>
          cases renderHeaders environment arguments [] handler.headers with
          | error fault => simp
          | ok headers =>
              simp only [Bool.not_true, Bool.false_eq_true, if_false, Except.ok.injEq]
              constructor
              · rintro rfl
                exact ⟨trivial, rfl, rfl, rfl, headers, rfl, rfl⟩
              · rintro ⟨-, rfl, hmethod, hbody, found, rfl, hheaders⟩
                rw [← hbody, ← hheaders, ← hmethod]

theorem body_of_render {environment : Environment} {handler : HttpHandler}
    {arguments : Arguments} {request : Request}
    (hrender : render environment handler arguments = .ok request) :
    request.body = handler.body.map fun template => Body.render template arguments := by
  obtain ⟨-, -, -, hbody, -⟩ := (render_eq_ok_iff _ _ _ _).mp hrender
  exact hbody

/-- Requests depend on the variables that their handler refers to and on no others, and are
those of the handler with these variables expanded. Bodies and commands depend on none. -/
theorem render_variables (handler : HttpHandler) (arguments : Arguments) :
    (∀ left right : Environment,
      (∀ name ∈ handler.references, left.get? name = right.get? name) →
        render left handler arguments = render right handler arguments) ∧
    (∀ environment : Environment,
      render environment handler arguments = render [] (handler.expanded environment) arguments) ∧
    (∀ (environment : Environment) (request : Request),
      render environment handler arguments = .ok request →
        request.body = handler.body.map fun template => Body.render template arguments) ∧
    ∀ (exchange : Request → Exchange) (ending : Launch → RunEnd) (limits : Adapter.Limits)
      (environment : Environment) (tool : String) (shell : ShellHandler),
      ((Adapter.callShell (.recorder exchange ending) { limits, environment } tool shell
          arguments).run []).2.map Launch.words =
        [Command.render shell.command arguments].filter (!·.isEmpty) := by
  refine ⟨?_, ?_, ?_, ?_⟩
  · intro left right hsame
    rw [render_expanded left, render_expanded right, HttpHandler.expanded_congr hsame]
  · intro environment
    exact render_expanded environment handler arguments
  · intro environment request hrender
    exact body_of_render hrender
  · intro exchange ending limits environment tool shell
    exact Adapter.words_callShell exchange ending { limits, environment } tool shell arguments

/-- An argument that looks like a reference brings no variable into a request. -/
theorem render_variables_key :
    render [("HOST", "h"), ("KEY", "a")] { url := "http://$\x7bHOST\x7d/\x7bid\x7d" }
        [("id", .string "$\x7bKEY\x7d")] =
      render [("HOST", "h"), ("KEY", "b")] { url := "http://$\x7bHOST\x7d/\x7bid\x7d" }
        [("id", .string "$\x7bKEY\x7d")] := by
  obtain ⟨hagree, -, -, -⟩ := render_variables { url := "http://$\x7bHOST\x7d/\x7bid\x7d" }
    [("id", .string "$\x7bKEY\x7d")]
  exact hagree _ _ (by decide +kernel)

end Request

end Toolbench
