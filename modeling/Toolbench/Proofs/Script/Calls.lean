import Toolbench.Proofs.Script.Evaluation

/-!
# Calls on a builder

A call that a builder refuses is not remembered. What a script comes to after any calls is decided
by the declarations among them, each from the opening of a tool to the next one: one that is
refused is lost together with the one that was to be opened behind it, and the others stay.
-/

namespace Toolbench

namespace Script

/-- A call on a builder. -/
inductive Call where
  | addTool (name description : String)
  | addParameter (parameter : Parameter)
  | setHandler (handler : Handler)

namespace Call

def isOpening : Call → Bool
  | addTool _ _ => true
  | _ => false

def parameter? : Call → Option Parameter
  | addParameter parameter => some parameter
  | _ => none

def handler? : Call → Option Handler
  | setHandler handler => some handler
  | _ => none

end Call

namespace Builder

def perform (builder : Builder) : Call → Except DeclarationFault Unit × Builder
  | .addTool name description => builder.addTool name description
  | .addParameter parameter => builder.addParameter parameter
  | .setHandler handler => builder.setHandler handler

def performAll (builder : Builder) : List Call → List (Except DeclarationFault Unit) × Builder
  | [] => ([], builder)
  | call :: rest =>
      let (answer, next) := builder.perform call
      let (answers, last) := next.performAll rest
      (answer :: answers, last)

end Builder

/-! ## Declarations -/

/-- The calls up to the next opening. -/
def ownCalls (calls : List Call) : List Call :=
  calls.takeWhile fun call => !call.isOpening

/-- A declaration with all parameters and the first handler that are given to it by the calls up
to the next opening. -/
def PendingTool.given (pending : PendingTool) (calls : List Call) : PendingTool :=
  { pending with
    parameters := pending.parameters ++ (ownCalls calls).filterMap Call.parameter?
    handler := pending.handler.or ((ownCalls calls).findSome? Call.handler?) }

/-- The declarations among calls, in order. -/
def declarations : List Call → List PendingTool
  | [] => []
  | .addTool name description :: rest =>
      PendingTool.given { name, description } rest :: declarations rest
  | _ :: rest => declarations rest

/-- What declarations come to behind the tools that are complete. One that is refused takes the
next one with it, whose opening is the call that fails; the last one is refused at the end. -/
def settle (source : String) (earlier : List Tool) :
    List PendingTool → Except DeclarationFault (List Tool)
  | [] => .ok earlier
  | [last] => (Builder.complete { source, declared := earlier } last).map (earlier ++ [·])
  | first :: lost :: rest =>
      match Builder.complete { source, declared := earlier } first with
      | .ok tool => settle source (earlier ++ [tool]) (lost :: rest)
      | .error _ => settle source earlier rest

/-- The declarations of calls, behind one that may be open before them. -/
def standing (pending : Option PendingTool) (calls : List Call) : List PendingTool :=
  match pending with
  | none => declarations calls
  | some pending => pending.given calls :: declarations calls

theorem PendingTool.given_of_ownCalls_eq_nil (pending : PendingTool) {calls : List Call}
    (hnone : ownCalls calls = []) : pending.given calls = pending := by
  simp [given, hnone]

theorem PendingTool.given_addParameter (pending : PendingTool) (parameter : Parameter)
    (rest : List Call) :
    pending.given (.addParameter parameter :: rest) =
      PendingTool.given { pending with parameters := pending.parameters ++ [parameter] } rest := by
  have hown : ownCalls (.addParameter parameter :: rest) =
      .addParameter parameter :: ownCalls rest := rfl
  have hparameter : (Call.addParameter parameter).parameter? = some parameter := rfl
  have hhandler : (Call.addParameter parameter).handler? = none := rfl
  simp [given, hown, hparameter, hhandler]

/-- Of several handlers the first one counts. -/
theorem PendingTool.given_setHandler (pending : PendingTool) (handler : Handler)
    (rest : List Call) :
    pending.given (.setHandler handler :: rest) =
      PendingTool.given { pending with handler := pending.handler.or (some handler) } rest := by
  have hown : ownCalls (.setHandler handler :: rest) = .setHandler handler :: ownCalls rest := rfl
  have hparameter : (Call.setHandler handler).parameter? = none := rfl
  have hhandler : (Call.setHandler handler).handler? = some handler := rfl
  simp [given, hown, hparameter, hhandler]

namespace Builder

/-! ## One call -/

/-- A call that is refused leaves the tools that are complete, and drops no more than the
declaration that is open. -/
theorem declared_of_perform_eq_error {builder next : Builder} {call : Call}
    {fault : DeclarationFault} (hcall : builder.perform call = (.error fault, next)) :
    next = builder ∨ next = { builder with pending := none } := by
  obtain ⟨source, declared, pending⟩ := builder
  cases call with
  | addTool name description =>
      rw [perform, addTool, close] at hcall
      cases pending with
      | none => cases hcall
      | some pending =>
          simp only at hcall
          cases hcomplete : complete { source, declared, pending := some pending } pending with
          | ok tool =>
              rw [hcomplete] at hcall
              cases hcall
          | error refused =>
              rw [hcomplete] at hcall
              exact .inr (Prod.mk.inj hcall).2.symm
  | addParameter parameter =>
      cases pending with
      | none => exact .inl (Prod.mk.inj hcall).2.symm
      | some pending => cases hcall
  | setHandler handler =>
      cases pending with
      | none => exact .inl (Prod.mk.inj hcall).2.symm
      | some pending =>
          obtain ⟨name, description, parameters, held⟩ := pending
          cases held with
          | none => cases hcall
          | some first => exact .inl (Prod.mk.inj hcall).2.symm

theorem source_perform (builder : Builder) (call : Call) :
    (builder.perform call).2.source = builder.source := by
  cases call with
  | addTool name description =>
      have hsource := builder.close_source
      rw [perform, addTool]
      cases hclose : builder.close with
      | mk answer closed =>
          rw [hclose] at hsource
          cases answer <;> exact hsource
  | addParameter parameter =>
      rw [perform, addParameter]
      split <;> rfl
  | setHandler handler =>
      rw [perform, setHandler]
      split
      · rfl
      · split <;> rfl

/-! ## All calls -/

theorem source_performAll (builder : Builder) (calls : List Call) :
    (builder.performAll calls).2.source = builder.source := by
  induction calls generalizing builder with
  | nil => rfl
  | cons call rest ih => exact (ih (builder.perform call).2).trans (builder.source_perform call)

theorem settled_performAll (source : String) (declared : List Tool)
    (pending : Option PendingTool) (calls : List Call) :
    (performAll { source, declared, pending } calls).2.settled =
      settle source declared (standing pending calls) := by
  induction calls generalizing declared pending with
  | nil =>
      cases pending with
      | none => rfl
      | some pending =>
          rw [standing, pending.given_of_ownCalls_eq_nil rfl]
          exact settled_of_pending source declared pending
  | cons call rest ih =>
      cases call with
      | addTool name description =>
          cases pending with
          | none => exact ih declared (some { name, description })
          | some pending =>
              have hcomplete : complete { source, declared, pending := some pending } pending =
                  complete { source, declared } pending := rfl
              rw [standing, pending.given_of_ownCalls_eq_nil rfl, declarations, settle,
                performAll, perform, addTool, close]
              simp only [hcomplete]
              -- A refused declaration leaves none open, and so the calls for the next one are lost.
              cases complete { source, declared } pending with
              | ok tool => exact ih (declared ++ [tool]) (some { name, description })
              | error fault => exact ih declared none
      | addParameter parameter =>
          cases pending with
          | none => exact ih declared none
          | some pending =>
              rw [standing, pending.given_addParameter]
              exact ih declared (some _)
      | setHandler handler =>
          cases pending with
          | none => exact ih declared none
          | some pending =>
              rw [standing, pending.given_setHandler]
              obtain ⟨name, description, parameters, held⟩ := pending
              cases held with
              | none => exact ih declared (some ⟨name, description, parameters, some handler⟩)
              | some first => exact ih declared (some ⟨name, description, parameters, some first⟩)

end Builder

/-! ## The end of a script -/

theorem withTools_eq_self_iff (registry : Registry) (tools : List Tool) :
    withTools registry tools = registry ↔ tools = [] := by
  constructor
  · intro hsame
    have hcatalog : registry.current.insertAll tools = registry.current :=
      congrArg Registry.current hsame
    have hbalance := registry.current.size_add_overwritten_insertAll tools
    rw [hcatalog] at hbalance
    exact List.eq_nil_of_length_eq_zero (by omega)
  · rintro rfl
    rfl

/-- A script registers nothing if it is refused, or has no tools, or has one that the registry
refuses. -/
theorem conclude_eq_self_iff (source : String) (registry : Registry)
    (declared : Except DeclarationFault (List Tool)) :
    (conclude source registry declared).2 = registry ↔
      ∀ tools, declared = .ok tools → tools = [] ∨
        ¬ Catalog.Admits registry.policy registry.current (tools.map (·.name)) := by
  cases declared with
  | error fault => simp [conclude]
  | ok tools =>
      simp only [Except.ok.injEq, forall_eq']
      rcases registerAll_eq registry tools with ⟨error, hregister, hnot⟩ | ⟨hregister, hadmits⟩
      · simp [conclude, hregister, hnot]
      · simp [conclude, hregister, hadmits, withTools_eq_self_iff]

/-- After any calls, refused or not, a script ends as its declarations do. So it registers nothing
exactly if the last declaration that was opened is refused, if none was complete, or if the
registry refuses a name. A call that is refused changes nothing but that the declaration that is
open may be dropped. -/
theorem finish_performAll (source : String) (calls : List Call) (registry : Registry) :
    (Builder.performAll { source } calls).2.finish registry =
        conclude source registry (settle source [] (declarations calls)) ∧
    (((Builder.performAll { source } calls).2.finish registry).2 = registry ↔
      ∀ tools, settle source [] (declarations calls) = .ok tools →
        tools = [] ∨ ¬ Catalog.Admits registry.policy registry.current (tools.map (·.name))) ∧
    ∀ (builder next : Builder) (call : Call) (fault : DeclarationFault),
      builder.perform call = (.error fault, next) →
        next = builder ∨ next = { builder with pending := none } := by
  have hsettled := Builder.settled_performAll source [] none calls
  have hfinish : (Builder.performAll { source } calls).2.finish registry =
      conclude source registry (settle source [] (declarations calls)) := by
    rw [Builder.finish_eq, hsettled, Builder.source_performAll]
    rfl
  refine ⟨hfinish, ?_, ?_⟩
  · rw [hfinish]
    exact conclude_eq_self_iff source registry _
  · intro builder next call fault hcall
    exact Builder.declared_of_perform_eq_error hcall

/-- A parameter outside of a declaration is refused, and at the end a tool without a handler is. -/
theorem finish_performAll_unfinished :
    let run := Builder.performAll { source := "" } [.addParameter { name := "x" }, .addTool "t" ""]
    run.1[0]? = some (.error (.outsideTool "parameter")) ∧ (run.2.finish {}).2 = {} := by
  refine ⟨rfl, (finish_performAll "" _ {}).2.1.mpr ?_⟩
  intro tools hsettle
  cases hsettle

/-- The calls for a tool, for one with a placeholder that names no parameter, and for one behind
them. -/
def sampleCalls : List Call :=
  [.addTool "good" "", .setHandler (.shell { command := ["true"] }),
    .addTool "broken" "", .setHandler (.http { url := "https://x.test/\x7bmissing\x7d" }),
    .addTool "last" ""]

/-- The second tool is refused when the third is opened, and the first is registered. -/
theorem finish_registers_good :
    let run := Builder.performAll { source := "mixed.yaml" } sampleCalls
    (∃ fault, run.1[4]? = some (.error fault)) ∧
      (run.2.finish {}).2.current.names = ["good"] := by
  intro run
  have hanswer : run.1[4]?.map Except.isOk = some false := by
    decide +kernel
  have hnames : (run.2.finish {}).2.current.names = ["good"] := by
    decide +kernel
  refine ⟨?_, hnames⟩
  cases hcall : run.1[4]? with
  | none =>
      rw [hcall] at hanswer
      cases hanswer
  | some answer =>
      cases answer with
      | ok _ =>
          rw [hcall] at hanswer
          cases hanswer
      | error fault => exact ⟨fault, rfl⟩

end Script

end Toolbench
