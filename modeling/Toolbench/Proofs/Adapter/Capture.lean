import Toolbench.Adapter.Invocation
import Toolbench.Proofs.Tool.Declaration

/-!
# What the limit on output holds back

A run that goes well leaves something behind: the body of an answer, or what a program wrote to
its two streams. The body and the first stream are counted against the limit in force, and this
alone decides between an answer and a failure; the second stream is not counted.
-/

namespace Toolbench

namespace Adapter

open Text (Bytes)

/-- The limit in force for a handler. -/
def limitFor (limits : Limits) : Handler → Nat
  | .http _ => limits.maxOutputBytes
  | .shell handler => handler.maxOutputBytes.getD limits.maxOutputBytes

/-! ## What a run leaves -/

/-- What a run that goes well leaves behind. -/
inductive Capture where
  | answer (status : Nat) (headers : List (String × Bytes)) (body : Bytes)
  | streams (stdout stderr : Bytes)

namespace Capture

/-- All that is limited. -/
def texts : Capture → List Bytes
  | answer _ _ body => [body]
  | streams stdout stderr => [stdout, stderr]

/-- What is counted against the limit. -/
def counted : Capture → Bytes
  | answer _ _ body => body
  | streams stdout _ => stdout

/-- The answer that carries it. -/
def output : Capture → Output
  | answer status headers body =>
      .http { status, headers := headerTexts headers, body := Text.Utf8.decodeLossy body }
  | streams stdout stderr =>
      .shell { stdout := Text.Utf8.decodeLossy stdout, stderr := Text.Utf8.decodeLossy stderr,
               exitCode := 0 }

/-- What it comes to under a limit. -/
def judged (capture : Capture) (limit : Nat) : Except Fault Output :=
  if limit < capture.counted.length then
    .error (.outputTooLarge capture.counted.length limit)
  else .ok capture.output

/-- Nothing beyond the limit is in an answer, and anything beyond it makes the run a failure that
names the size of something beyond it. -/
structure Bounded (capture : Capture) (limit : Nat) (result : Except Fault Output) : Prop where
  answers : ∀ output, result = .ok output → ∀ text ∈ capture.texts, text.length ≤ limit
  fails : (∃ text ∈ capture.texts, limit < text.length) →
    ∃ text ∈ capture.texts, limit < text.length ∧
      result = .error (.outputTooLarge text.length limit)

theorem counted_mem_texts (capture : Capture) : capture.counted ∈ capture.texts := by
  cases capture <;> simp [counted, texts]

theorem judged_of_lt {capture : Capture} {limit : Nat} (hlong : limit < capture.counted.length) :
    capture.judged limit = .error (.outputTooLarge capture.counted.length limit) :=
  if_pos hlong

theorem judged_of_le {capture : Capture} {limit : Nat} (hfits : capture.counted.length ≤ limit) :
    capture.judged limit = .ok capture.output :=
  if_neg (Nat.not_lt.mpr hfits)

theorem judged_eq_ok_iff (capture : Capture) (limit : Nat) (output : Output) :
    capture.judged limit = .ok output ↔
      capture.counted.length ≤ limit ∧ capture.output = output := by
  by_cases hlong : limit < capture.counted.length
  · rw [judged_of_lt hlong]
    constructor
    · intro hok
      cases hok
    · rintro ⟨hfits, -⟩
      omega
  · have hfits := Nat.not_lt.mp hlong
    rw [judged_of_le hfits, Except.ok.injEq]
    exact ⟨fun heq => ⟨hfits, heq⟩, And.right⟩

/-- Counting is enough unless what is counted fits and something else does not. -/
theorem bounded_judged_iff (capture : Capture) (limit : Nat) :
    capture.Bounded limit (capture.judged limit) ↔
      limit < capture.counted.length ∨ ∀ text ∈ capture.texts, text.length ≤ limit := by
  constructor
  · intro hbounded
    by_cases hlong : limit < capture.counted.length
    · exact .inl hlong
    · exact .inr (hbounded.answers _ (judged_of_le (Nat.not_lt.mp hlong)))
  · rintro (hlong | hfits)
    · have hfails := judged_of_lt hlong
      refine ⟨?_, fun _ => ⟨_, capture.counted_mem_texts, hlong, hfails⟩⟩
      intro output hok
      rw [hfails] at hok
      cases hok
    · refine ⟨fun _ _ => hfits, ?_⟩
      rintro ⟨text, hmem, hlong⟩
      exact absurd (hfits text hmem) (Nat.not_le.mpr hlong)

end Capture

theorem httpOutcome_answered (limits : Limits) (url : Url) (timeoutMillis : Nat)
    {answer : HttpAnswer} {body : Bytes} (hbody : answer.body = some body) :
    (httpOutcome limits url timeoutMillis (.answered answer)).map Output.http =
      (Capture.answer answer.status answer.headers body).judged limits.maxOutputBytes := by
  by_cases hlong : limits.maxOutputBytes < body.length
  · rw [Capture.judged_of_lt hlong]
    simp only [httpOutcome, hbody, if_pos hlong]
    rfl
  · rw [Capture.judged_of_le (Nat.not_lt.mp hlong)]
    simp only [httpOutcome, hbody, if_neg hlong]
    rfl

theorem exists_body_of_httpOutcome {limits : Limits} {url : Url} {timeoutMillis : Nat}
    {exchange : Exchange} {output : Output}
    (hok : (httpOutcome limits url timeoutMillis exchange).map Output.http = .ok output) :
    ∃ answer body, exchange = .answered answer ∧ answer.body = some body := by
  cases exchange with
  | timedOut => cases hok
  | failed fault => cases hok
  | answered answer =>
      cases hbody : answer.body with
      | none =>
          simp only [httpOutcome, hbody] at hok
          cases hok
      | some body => exact ⟨answer, body, rfl, hbody⟩

theorem shellOutcome_ended (program : String) (maxOutputBytes timeoutMillis : Nat)
    (stdout stderr : Bytes) :
    (shellOutcome program maxOutputBytes timeoutMillis (.ended (some 0) stdout stderr)).map
        Output.shell =
      (Capture.streams stdout stderr).judged maxOutputBytes := by
  by_cases hlong : maxOutputBytes < stdout.length
  · rw [Capture.judged_of_lt hlong]
    simp only [shellOutcome, if_pos hlong]
    rfl
  · rw [Capture.judged_of_le (Nat.not_lt.mp hlong)]
    simp only [shellOutcome, if_neg hlong]
    rfl

theorem exists_streams_of_shellOutcome {program : String} {maxOutputBytes timeoutMillis : Nat}
    {ended : RunEnd} {output : Output}
    (hok : (shellOutcome program maxOutputBytes timeoutMillis ended).map Output.shell =
      .ok output) :
    ∃ stdout stderr, ended = .ended (some 0) stdout stderr := by
  unfold shellOutcome at hok
  split at hok
  case h_4 stdout stderr => exact ⟨stdout, stderr, rfl⟩
  all_goals cases hok

/-! ## Running a tool -/

variable {ω : Type} (host : Host ω) (setting : Setting)

/-- The program of a handler as it is run, once its command is filled. -/
def launch (handler : ShellHandler) (program : String) (words : List String) : Launch where
  program
  arguments := words
  workingDir := handler.workingDir
  environment := setting.environment.extend (setting.environment.expandAll handler.env)
  timeoutMillis := timeLimit handler.timeoutSecs setting.limits.shellTimeoutMillis

/-- What a tool run leaves, and the state of the world in which it does. A peer has answered in
full, or a program has reported success. -/
inductive Captures (tool : Tool) (arguments : Arguments) (world : ω) : Capture → ω → Prop where
  | answered {handler : HttpHandler} {request : Request} {answer : HttpAnswer} {body : Bytes}
      {after : ω} (hhandler : tool.handler = .http handler)
      (hrender : Request.render setting.environment handler arguments = .ok request)
      (hdeliver : (host.deliver request (some (timeLimit handler.timeoutSecs
        setting.limits.httpTimeoutMillis))).run world = (.answered answer, after))
      (hbody : answer.body = some body) :
      Captures tool arguments world (.answer answer.status answer.headers body) after
  | ended {handler : ShellHandler} {program : String} {words : List String}
      {stdout stderr : Bytes} {after : ω} (hhandler : tool.handler = .shell handler)
      (hrender : Command.render handler.command arguments = program :: words)
      (hrun : (host.run (launch setting handler program words)).run world =
        (.ended (some 0) stdout stderr, after)) :
      Captures tool arguments world (.streams stdout stderr) after

theorem callHttp_run (handler : HttpHandler) (arguments : Arguments) (world : ω) :
    (callHttp host setting handler arguments).run world =
      match Request.render setting.environment handler arguments with
      | .error fault => (.error (.request fault), world)
      | .ok request =>
          let timeout := timeLimit handler.timeoutSecs setting.limits.httpTimeoutMillis
          let (exchange, after) := (host.deliver request (some timeout)).run world
          (httpOutcome setting.limits request.url timeout exchange, after) := by
  unfold callHttp
  cases Request.render setting.environment handler arguments <;> rfl

theorem callShell_run (tool : String) (handler : ShellHandler) (arguments : Arguments)
    (world : ω) :
    (callShell host setting tool handler arguments).run world =
      match Command.render handler.command arguments with
      | [] => (.error (.emptyCommand tool), world)
      | program :: words =>
          let (ended, after) := (host.run (launch setting handler program words)).run world
          (shellOutcome program (limitFor setting.limits (.shell handler))
            (timeLimit handler.timeoutSecs setting.limits.shellTimeoutMillis) ended, after) := by
  unfold callShell
  cases Command.render handler.command arguments <;> rfl

theorem invoke_run_of_http {tool : Tool} {handler : HttpHandler}
    (hhandler : tool.handler = .http handler) (arguments : Arguments) (world : ω) :
    (invoke host setting tool arguments).run world =
      (((callHttp host setting handler arguments).run world).1.map .http,
        ((callHttp host setting handler arguments).run world).2) := by
  unfold invoke invokeHttp
  simp only [hhandler]
  rfl

theorem invoke_run_of_shell {tool : Tool} {handler : ShellHandler}
    (hhandler : tool.handler = .shell handler) (arguments : Arguments) (world : ω) :
    (invoke host setting tool arguments).run world =
      (((callShell host setting tool.name handler arguments).run world).1.map .shell,
        ((callShell host setting tool.name handler arguments).run world).2) := by
  unfold invoke invokeShell
  simp only [hhandler]
  rfl

theorem invoke_run_of_captures {tool : Tool} {arguments : Arguments} {world after : ω}
    {capture : Capture} (hcaptures : Captures host setting tool arguments world capture after) :
    (invoke host setting tool arguments).run world =
      (capture.judged (limitFor setting.limits tool.handler), after) := by
  cases hcaptures with
  | answered hhandler hrender hdeliver hbody =>
      rw [invoke_run_of_http host setting hhandler, callHttp_run, hrender]
      simp only [hdeliver, httpOutcome_answered _ _ _ hbody, hhandler, limitFor]
  | ended hhandler hrender hrun =>
      rw [invoke_run_of_shell host setting hhandler, callShell_run, hrender]
      simp only [hrun, shellOutcome_ended, hhandler]

theorem captures_of_invoke {tool : Tool} {arguments : Arguments} {world after : ω}
    {output : Output}
    (hok : (invoke host setting tool arguments).run world = (.ok output, after)) :
    ∃ capture, Captures host setting tool arguments world capture after := by
  cases hhandler : tool.handler with
  | http handler =>
      rw [invoke_run_of_http host setting hhandler, callHttp_run] at hok
      cases hrender : Request.render setting.environment handler arguments with
      | error fault =>
          rw [hrender] at hok
          cases hok
      | ok request =>
          rw [hrender] at hok
          obtain ⟨hresult, hafter⟩ := Prod.mk.inj hok
          obtain ⟨answer, body, hanswer, hbody⟩ := exists_body_of_httpOutcome hresult
          exact ⟨_, .answered hhandler hrender (Prod.ext hanswer hafter) hbody⟩
  | shell handler =>
      rw [invoke_run_of_shell host setting hhandler, callShell_run] at hok
      cases hrender : Command.render handler.command arguments with
      | nil =>
          rw [hrender] at hok
          cases hok
      | cons program words =>
          rw [hrender] at hok
          obtain ⟨hresult, hafter⟩ := Prod.mk.inj hok
          obtain ⟨stdout, stderr, hended⟩ := exists_streams_of_shellOutcome hresult
          exact ⟨_, .ended hhandler hrender (Prod.ext hended hafter)⟩

/-- An answer is what a run has left, and what is counted of that is within the limit. The limit
holds for all that a peer answers. For a program it holds if and only if the second stream is
within the limit or the first is not. -/
theorem invoke_bounded_iff (tool : Tool) (arguments : Arguments) (world : ω) :
    (∀ output after, (invoke host setting tool arguments).run world = (.ok output, after) ↔
      ∃ capture, Captures host setting tool arguments world capture after ∧
        capture.counted.length ≤ limitFor setting.limits tool.handler ∧
        capture.output = output) ∧
    (∀ status headers body after,
      Captures host setting tool arguments world (.answer status headers body) after →
        (Capture.answer status headers body).Bounded (limitFor setting.limits tool.handler)
          ((invoke host setting tool arguments).run world).1) ∧
    (∀ stdout stderr after,
      Captures host setting tool arguments world (.streams stdout stderr) after →
        ((Capture.streams stdout stderr).Bounded (limitFor setting.limits tool.handler)
            ((invoke host setting tool arguments).run world).1 ↔
          limitFor setting.limits tool.handler < stdout.length ∨
            stderr.length ≤ limitFor setting.limits tool.handler)) := by
  refine ⟨?_, ?_, ?_⟩
  · intro output after
    constructor
    · intro hok
      obtain ⟨capture, hcaptures⟩ := captures_of_invoke host setting hok
      rw [invoke_run_of_captures host setting hcaptures] at hok
      exact ⟨capture, hcaptures, (capture.judged_eq_ok_iff _ _).mp (Prod.mk.inj hok).1⟩
    · rintro ⟨capture, hcaptures, hcounted⟩
      rw [invoke_run_of_captures host setting hcaptures,
        (capture.judged_eq_ok_iff _ _).mpr hcounted]
  · intro status headers body after hcaptures
    rw [invoke_run_of_captures host setting hcaptures, Capture.bounded_judged_iff]
    simp only [Capture.counted, Capture.texts, List.forall_mem_singleton]
    exact Nat.lt_or_ge _ _
  · intro stdout stderr after hcaptures
    rw [invoke_run_of_captures host setting hcaptures, Capture.bounded_judged_iff]
    simp only [Capture.counted, Capture.texts, List.forall_mem_cons, List.not_mem_nil,
      false_implies, implies_true, and_true]
    omega

/-- The declaration of a tool that reports on its second stream, with little room. -/
def reportingSpec : ToolSpec where
  name := "chatty"
  handler := .shell {
    command := ["sh", "-c", "echo 0123456789 >&2"]
    maxOutputBytes := some 4 }

theorem check_reportingSpec : reportingSpec.check = .ok () := by
  rw [ToolSpec.check_eq_ok_iff]
  refine ⟨by decide, rfl, ?_, by decide +kernel⟩
  rw [reportingSpec, Handler.check_shell_eq_ok_iff]
  exact ⟨"sh", _, rfl, by decide, by decide +kernel⟩

def reportingTool : Tool :=
  { reportingSpec with source := "", checked := check_reportingSpec }

def report : Bytes :=
  Text.Utf8.encode "0123456789\n"

/-- A host on which programs do nothing but write the report. -/
def reportingHost : Host Unit where
  exchange := fun request _ => pure (.failed (.unsent request.url))
  run := fun _ => pure (.ended (some 0) [] report)

/-- A report of eleven bytes gets through a limit of four. -/
theorem invoke_carries_report :
    Captures reportingHost {} reportingTool [] () (.streams [] report) () ∧
      limitFor {} reportingTool.handler = 4 ∧ report.length = 11 ∧
      (invoke reportingHost {} reportingTool []).run () =
        (.ok (.shell { stdout := "", stderr := "0123456789\n", exitCode := 0 }), ()) ∧
      ¬ (Capture.streams [] report).Bounded 4
        ((invoke reportingHost {} reportingTool []).run ()).1 := by
  have hcaptures : Captures reportingHost {} reportingTool [] () (.streams [] report) () :=
    .ended rfl (by decide +kernel : Command.render _ [] = "sh" :: ["-c", "echo 0123456789 >&2"]) rfl
  have hrun : (invoke reportingHost {} reportingTool []).run () =
      (.ok (.shell { stdout := "", stderr := "0123456789\n", exitCode := 0 }), ()) := by
    have hjudged : (Capture.streams [] report).judged 4 =
        .ok (.shell { stdout := "", stderr := "0123456789\n", exitCode := 0 }) :=
      (Capture.judged_eq_ok_iff _ 4 _).mpr ⟨Nat.zero_le 4, by decide +kernel⟩
    rw [invoke_run_of_captures reportingHost {} hcaptures]
    exact congrArg (·, ()) hjudged
  refine ⟨hcaptures, rfl, by decide +kernel, hrun, ?_⟩
  intro hbounded
  rw [hrun] at hbounded
  have hfits := hbounded.answers _ rfl report (by simp [Capture.texts])
  exact absurd hfits (by decide +kernel)

end Adapter

end Toolbench
