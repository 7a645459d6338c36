import Toolbench.Proofs.Registry.Catalog
import Toolbench.Proofs.Script.Declaration

/-!
# Evaluated scripts

A script registers all of its enabled tools or nothing.  Opening tools, closing them late and
registering them together comes to the same as declaring each enabled block on its own.
-/

namespace Toolbench

namespace Script

/-- The end of a script: the tools that it comes to are registered together. -/
def conclude (source : String) (registry : Registry) :
    Except DeclarationFault (List Tool) → Except ScriptFault Nat × Registry
  | .error fault => (.error (.declaration source fault), registry)
  | .ok tools =>
      match registry.registerAll tools with
      | (.ok count, registry) => (.ok count, registry)
      | (.error error, registry) => (.error (.duplicate source error), registry)

namespace Builder

/-! ## What a builder comes to -/

/-- The tools of a script that ends now. -/
def settled (builder : Builder) : Except DeclarationFault (List Tool) :=
  match builder.close with
  | (.ok (), closed) => .ok closed.declared
  | (.error fault, _) => .error fault

theorem close_source (builder : Builder) : builder.close.2.source = builder.source := by
  unfold close
  split
  · rfl
  · split <;> rfl

theorem finish_eq (builder : Builder) (registry : Registry) :
    builder.finish registry = conclude builder.source registry builder.settled := by
  unfold finish settled
  obtain ⟨result, closed⟩ := builder.close
  cases result <;> rfl

theorem settled_of_pending (source : String) (declared : List Tool) (pending : PendingTool) :
    settled { source, declared, pending := some pending } =
      (complete { source, declared } pending).map fun tool => declared ++ [tool] := by
  have hcomplete : complete { source, declared, pending := some pending } pending =
      complete { source, declared } pending := rfl
  unfold settled close
  simp only [hcomplete]
  cases complete { source, declared } pending <;> rfl

theorem addParameters_eq (source : String) (declared : List Tool) (pending : PendingTool)
    (parameters : List Parameter) :
    addParameters { source, declared, pending := some pending } parameters =
      .ok { source, declared,
            pending := some { pending with parameters := pending.parameters ++ parameters } } := by
  induction parameters generalizing pending with
  | nil =>
      simp [addParameters]
  | cons parameter rest ih =>
      simp only [addParameters, addParameter, ih]
      simp

/-- The tool of a block is opened with all that the block has; it is checked later. -/
theorem declareBlock_eq (builder : Builder) (block : ToolBlock) :
    builder.declareBlock block =
      builder.settled.bind fun tools =>
        block.handler.handler.bind fun handler =>
          .ok { source := builder.source, declared := tools,
                pending := some { name := block.name, description := block.description,
                                  parameters := block.parameters, handler := some handler } } := by
  have hsource := builder.close_source
  unfold declareBlock addTool settled
  cases hclose : builder.close with
  | mk result closed =>
      rw [hclose] at hsource
      cases result with
      | error fault => rfl
      | ok _ =>
          simp only [addParameters_eq, List.nil_append, bind, Except.bind, ← hsource]
          cases block.handler.handler <;> rfl

theorem declareBlock_source {builder next : Builder} {block : ToolBlock}
    (hdeclare : builder.declareBlock block = .ok next) : next.source = builder.source := by
  rw [declareBlock_eq] at hdeclare
  cases hsettled : builder.settled with
  | error fault =>
      rw [hsettled] at hdeclare
      cases hdeclare
  | ok tools =>
      cases hhandler : block.handler.handler with
      | error fault =>
          rw [hsettled, hhandler] at hdeclare
          cases hdeclare
      | ok handler =>
          rw [hsettled, hhandler] at hdeclare
          exact (congrArg Builder.source (Except.ok.inj hdeclare)).symm

/-- Closed at last, the tool is what its block declares behind the tools before it. -/
theorem settled_declareBlock (builder : Builder) (block : ToolBlock) :
    (builder.declareBlock block).bind settled =
      builder.settled.bind fun tools =>
        (block.declared builder.source tools).map fun tool => tools ++ [tool] := by
  rw [declareBlock_eq]
  cases builder.settled with
  | error fault => rfl
  | ok tools =>
      simp only [Except.bind, ToolBlock.declared]
      cases block.handler.handler with
      | error fault => rfl
      | ok handler => exact settled_of_pending _ _ _

theorem settled_declareBlocks (builder : Builder) (blocks : List ToolBlock) :
    (builder.declareBlocks blocks).bind settled =
      builder.settled.bind fun tools =>
        declareAll builder.source tools (blocks.filter (·.enabled)) := by
  induction blocks generalizing builder with
  | nil =>
      simp only [declareBlocks, List.filter_nil, declareAll, Except.bind]
      cases builder.settled <;> rfl
  | cons block rest ih =>
      unfold declareBlocks
      cases henabled : block.enabled with
      | false =>
          simpa [henabled] using ih builder
      | true =>
          have hfirst := builder.settled_declareBlock block
          -- the first enabled block counts as declared, though its tool is still to be closed
          have hbehind : (builder.settled.bind fun tools =>
              declareAll builder.source tools ((block :: rest).filter (·.enabled))) =
              ((builder.declareBlock block).bind settled).bind fun tools =>
                declareAll builder.source tools (rest.filter (·.enabled)) := by
            rw [hfirst]
            cases builder.settled with
            | error fault => rfl
            | ok tools =>
                simp only [List.filter_cons, henabled, if_true, declareAll, Except.bind]
                cases block.declared builder.source tools <;> rfl
          rw [hbehind, if_pos rfl]
          cases hdeclare : builder.declareBlock block with
          | error fault => rfl
          | ok next =>
              have hnext := ih next
              rw [declareBlock_source hdeclare] at hnext
              exact hnext

theorem declareBlocks_source {builder next : Builder} {blocks : List ToolBlock}
    (hdeclare : builder.declareBlocks blocks = .ok next) : next.source = builder.source := by
  induction blocks generalizing builder with
  | nil =>
      exact (congrArg Builder.source (Except.ok.inj hdeclare)).symm
  | cons block rest ih =>
      unfold declareBlocks at hdeclare
      split at hdeclare
      · split at hdeclare
        · rename_i first hfirst
          rw [ih hdeclare, declareBlock_source hfirst]
        · cases hdeclare
      · exact ih hdeclare

/-- Evaluating blocks comes to declaring the enabled ones each on its own. -/
theorem evaluateBlocks_eq (source : String) (blocks : List ToolBlock) (registry : Registry) :
    evaluateBlocks { source } blocks registry =
      conclude source registry (declareAll source [] (blocks.filter (·.enabled))) := by
  have hsettled : (declareBlocks { source } blocks).bind settled =
      declareAll source [] (blocks.filter (·.enabled)) :=
    settled_declareBlocks { source } blocks
  unfold evaluateBlocks
  cases hdeclare : declareBlocks { source } blocks with
  | error fault =>
      rw [← hsettled, hdeclare]
      rfl
  | ok builder =>
      have hsource : builder.source = source := declareBlocks_source hdeclare
      rw [← hsettled, hdeclare]
      simp only [finish_eq, hsource, Except.bind]

end Builder

/-- The tools that the text of a script declares; blank text declares none. -/
def declaredIn (source text : String) : Except DeclarationFault (List Tool) :=
  if Text.isBlankText text then .ok []
  else
    match blocks text with
    | .ok blocks => declareAll source [] (blocks.filter (·.enabled))
    | .error refusal => .error (.document refusal)

theorem evaluate_eq (source text : String) (registry : Registry) :
    evaluate source text registry = conclude source registry (declaredIn source text) := by
  unfold evaluate Builder.evaluate declaredIn
  split
  · rfl
  · cases blocks text with
    | error refusal => rfl
    | ok blocks => exact Builder.evaluateBlocks_eq source blocks registry

/-! ## Registered tools -/

/-- Tools that blocks declare, under names of their own that the registry takes. -/
structure Registrable (source : String) (registry : Registry) (blocks : List ToolBlock)
    (tools : List Tool) : Prop where
  declared : List.Forall₂ (ToolBlock.Declares source) blocks tools
  distinct : (blocks.map (·.name)).Nodup
  untaken : registry.policy = .reject →
    ∀ block ∈ blocks, registry.current.contains block.name = false

/-- A registry with tools put into its catalog one after the other. -/
def withTools (registry : Registry) (tools : List Tool) : Registry :=
  { registry with current := registry.current.insertAll tools }

theorem registerAll_eq (registry : Registry) (tools : List Tool) :
    (∃ error, registry.registerAll tools = (.error error, registry) ∧
      ¬ Catalog.Admits registry.policy registry.current (tools.map (·.name))) ∨
    (registry.registerAll tools = (.ok tools.length, withTools registry tools) ∧
      Catalog.Admits registry.policy registry.current (tools.map (·.name))) := by
  have hiff := Catalog.registerAll_eq_ok_iff registry.policy registry.current tools
  unfold Registry.registerAll
  cases hregister : registry.current.registerAll registry.policy tools with
  | error error =>
      refine .inl ⟨error, rfl, fun hadmits => ?_⟩
      rw [(hiff _).mpr ⟨hadmits, rfl⟩] at hregister
      cases hregister
  | ok next =>
      obtain ⟨hadmits, rfl⟩ := (hiff next).mp hregister
      exact .inr ⟨rfl, hadmits⟩

theorem declareAll_nil_eq_ok_iff (source : String) (blocks : List ToolBlock) (tools : List Tool) :
    declareAll source [] blocks = .ok tools ↔
      List.Forall₂ (ToolBlock.Declares source) blocks tools ∧ (blocks.map (·.name)).Nodup := by
  have hnone : (([] : List Tool).map (·.name)).Nodup := List.nodup_nil
  simpa using declareAll_eq_ok_iff source hnone blocks tools

theorem declaredIn_distinct {source text : String} {tools : List Tool}
    (hdeclared : declaredIn source text = .ok tools) : (tools.map (·.name)).Nodup := by
  unfold declaredIn at hdeclared
  split at hdeclared
  · obtain rfl := Except.ok.inj hdeclared
    exact List.nodup_nil
  · split at hdeclared
    · obtain ⟨hall, hdistinct⟩ := (declareAll_nil_eq_ok_iff _ _ _).mp hdeclared
      rw [names_of_forall₂_declares hall]
      exact hdistinct
    · cases hdeclared

theorem conclude_declareAll_eq_ok_iff (source : String) (registry : Registry)
    (blocks : List ToolBlock) (count : Nat) (after : Registry) :
    conclude source registry (declareAll source [] blocks) = (.ok count, after) ↔
      ∃ tools, Registrable source registry blocks tools ∧ count = blocks.length ∧
        after = withTools registry tools := by
  have hiff := declareAll_nil_eq_ok_iff source blocks
  have hadmits : ∀ tools, List.Forall₂ (ToolBlock.Declares source) blocks tools →
      (blocks.map (·.name)).Nodup →
      (Catalog.Admits registry.policy registry.current (tools.map (·.name)) ↔
        Registrable source registry blocks tools) := by
    intro tools hdeclared hdistinct
    rw [names_of_forall₂_declares hdeclared]
    constructor
    · intro hadmits
      exact ⟨hdeclared, hdistinct, fun hpolicy => by simpa using (hadmits hpolicy).2⟩
    · intro hregistrable hpolicy
      exact ⟨hdistinct, by simpa using hregistrable.untaken hpolicy⟩
  cases hdeclare : declareAll source [] blocks with
  | error fault =>
      simp only [conclude, Prod.mk.injEq, reduceCtorEq, false_and, false_iff]
      rintro ⟨tools, hregistrable, -⟩
      rw [(hiff tools).mpr ⟨hregistrable.declared, hregistrable.distinct⟩] at hdeclare
      cases hdeclare
  | ok tools =>
      obtain ⟨hdeclared, hdistinct⟩ := (hiff tools).mp hdeclare
      -- blocks declare one list of tools, so it decides whether any can be registered
      have honly : ∀ others, Registrable source registry blocks others → others = tools := by
        intro others hothers
        have hsame := (hiff others).mpr ⟨hothers.declared, hothers.distinct⟩
        rw [hdeclare] at hsame
        exact (Except.ok.inj hsame).symm
      have hlength : tools.length = blocks.length := hdeclared.length_eq.symm
      rcases registerAll_eq registry tools with ⟨error, hregister, hnot⟩ | ⟨hregister, hregistered⟩
      · simp only [conclude, hregister, Prod.mk.injEq, reduceCtorEq, false_and, false_iff]
        rintro ⟨others, hothers, -⟩
        obtain rfl := honly others hothers
        exact hnot ((hadmits others hdeclared hdistinct).mpr hothers)
      · have hregistrable := (hadmits tools hdeclared hdistinct).mp hregistered
        simp only [conclude, hregister, Prod.mk.injEq, Except.ok.injEq, hlength]
        constructor
        · rintro ⟨rfl, rfl⟩
          exact ⟨tools, hregistrable, rfl, rfl⟩
        · rintro ⟨others, hothers, rfl, rfl⟩
          exact ⟨rfl, by rw [honly others hothers]⟩

theorem conclude_error {source : String} {registry : Registry}
    {declared : Except DeclarationFault (List Tool)} {fault : ScriptFault}
    (herror : (conclude source registry declared).1 = .error fault) :
    (conclude source registry declared).2 = registry := by
  cases declared with
  | error _ => rfl
  | ok tools =>
      rcases registerAll_eq registry tools with ⟨error, hregister, -⟩ | ⟨hregister, -⟩
      · simp [conclude, hregister]
      · simp [conclude, hregister] at herror

/-- A script whose enabled blocks declare tools with names of their own, none of which is taken
where that matters, registers all of them in order. Every other one leaves the registry as it was.
Disabled blocks make no difference. -/
theorem evaluateBlocks_all_or_nothing (source : String) (blocks : List ToolBlock)
    (registry : Registry) :
    let enabled := blocks.filter (·.enabled)
    let outcome := Builder.evaluateBlocks { source } blocks registry
    (∀ text, Text.isBlankText text = false → Script.blocks text = .ok blocks →
      evaluate source text registry = outcome) ∧
    (∀ count after, outcome = (.ok count, after) ↔
      ∃ tools, Registrable source registry enabled tools ∧ count = enabled.length ∧
        after = withTools registry tools) ∧
    ((¬ ∃ tools, Registrable source registry enabled tools) →
      ∃ fault, outcome = (.error fault, registry)) ∧
    (∀ others : List ToolBlock, others.filter (·.enabled) = enabled →
      Builder.evaluateBlocks { source } others registry = outcome) ∧
    (registry.current.Coherent → ∀ tools, Registrable source registry enabled tools →
      let after := (withTools registry tools).current
      after.Coherent ∧ after.tools = Catalog.latest (registry.current.tools ++ tools) ∧
        after.overwritten = registry.current.overwritten ++
          (enabled.map (·.name)).filter registry.current.contains) := by
  intro enabled outcome
  have houtcome : outcome = conclude source registry (declareAll source [] enabled) :=
    Builder.evaluateBlocks_eq source blocks registry
  have hiff := conclude_declareAll_eq_ok_iff source registry enabled
  rw [← houtcome] at hiff
  refine ⟨?_, hiff, ?_, ?_, ?_⟩
  · intro text hwritten hblocks
    simp [evaluate, Builder.evaluate, hwritten, hblocks, outcome]
  · intro hnone
    cases hresult : outcome.1 with
    | ok count => exact absurd ((hiff count outcome.2).mp (Prod.ext hresult rfl)) (by tauto)
    | error fault =>
        rw [houtcome] at hresult
        have hregistry := conclude_error hresult
        rw [← houtcome] at hresult hregistry
        exact ⟨fault, Prod.ext hresult hregistry⟩
  · intro others hsame
    rw [Builder.evaluateBlocks_eq, hsame, houtcome]
  · intro hcoherent tools hregistrable
    have hnames := names_of_forall₂_declares hregistrable.declared
    refine ⟨hcoherent.insertAll tools, hcoherent.tools_insertAll tools, ?_⟩
    rw [← hnames]
    exact Catalog.overwritten_insertAll _ (hnames ▸ hregistrable.distinct)

end Script

end Toolbench
