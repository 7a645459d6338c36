import Mathlib.Data.List.Forall2
import Toolbench.Script.Evaluation

/-!
# What the blocks of a script declare

A builder finds the faults of a tool only when the next one is opened or the script ends.  What
it comes to is nevertheless what declaring each block on its own gives: the tools of the blocks
in order, which have the fields of their blocks and names of their own.
-/

namespace Toolbench

theorem Tool.ofSpec_eq_ok_iff (spec : ToolSpec) (source : String) (tool : Tool) :
    Tool.ofSpec spec source = .ok tool ↔ tool.toToolSpec = spec ∧ tool.source = source := by
  unfold Tool.ofSpec
  split
  · constructor
    · intro hok
      obtain rfl := Except.ok.inj hok
      exact ⟨rfl, rfl⟩
    · rintro ⟨rfl, rfl⟩
      rfl
  · rename_i fault hfault
    constructor
    · rintro ⟨⟩
    · rintro ⟨rfl, -⟩
      rw [tool.checked] at hfault
      cases hfault

namespace Script

/-! ## One block -/

/-- The words that a command block stands for: those of its line, or its own. -/
inductive CommandBlock.Spells : CommandBlock → List String → Prop where
  | line {line : String} {words : List String} (hsplit : CommandLine.split line = .ok words) :
      Spells (.inl line) words
  | words (words : List String) : Spells (.inr words) words

/-- A command block as a handler with the given words. -/
def ShellBlock.withWords (block : ShellBlock) (words : List String) : ShellHandler where
  command := words
  timeoutSecs := block.timeoutSecs
  workingDir := block.workingDir
  env := block.env
  maxOutputBytes := block.maxOutputBytes

/-- The handler that a block gives its tool.  There has to be exactly one of the two kinds. -/
inductive HandlerBlock.Gives : HandlerBlock → Handler → Prop where
  | http (block : HttpHandler) :
      Gives ⟨some block, none⟩ (.http { block with method := Text.upper block.method })
  | shell {block : ShellBlock} {words : List String}
      (hwords : CommandBlock.Spells block.command words) :
      Gives ⟨none, some block⟩ (.shell (block.withWords words))

theorem HandlerBlock.handler_eq_ok_iff (block : HandlerBlock) (handler : Handler) :
    block.handler = .ok handler ↔ block.Gives handler := by
  obtain ⟨http, shell⟩ := block
  constructor
  · intro hhandler
    cases http with
    | some http =>
        cases shell with
        | some shell => cases hhandler
        | none =>
            obtain rfl := Except.ok.inj hhandler
            exact .http http
    | none =>
        cases shell with
        | none => cases hhandler
        | some shell =>
            cases hcommand : shell.command with
            | inr words =>
                simp only [HandlerBlock.handler, hcommand, bind, Except.bind,
                  Except.ok.injEq] at hhandler
                subst hhandler
                exact .shell (hcommand ▸ .words words)
            | inl line =>
                cases hsplit : CommandLine.split line with
                | error fault =>
                    simp only [HandlerBlock.handler, hcommand, hsplit, bind,
                      Except.bind] at hhandler
                    cases hhandler
                | ok words =>
                    simp only [HandlerBlock.handler, hcommand, hsplit, bind, Except.bind,
                      Except.ok.injEq] at hhandler
                    subst hhandler
                    exact .shell (hcommand ▸ .line hsplit)
  · rintro (_ | ⟨hwords⟩)
    · rfl
    · rename_i shell words
      generalize hcommand : shell.command = command at hwords
      cases hwords with
      | line hsplit =>
          simp [HandlerBlock.handler, hcommand, hsplit, bind, Except.bind, ShellBlock.withWords]
      | words => simp [HandlerBlock.handler, hcommand, bind, Except.bind, ShellBlock.withWords]

/-- A tool that a block declares.  Being a tool, it has passed the checks of declarations. -/
structure ToolBlock.Declares (source : String) (block : ToolBlock) (tool : Tool) : Prop where
  name_eq : tool.name = block.name
  description_eq : tool.description = block.description
  parameters_eq : tool.parameters = block.parameters
  handler_given : block.handler.Gives tool.handler
  source_eq : tool.source = source

/-- The tool of a block behind other tools of its script. -/
def ToolBlock.declared (source : String) (earlier : List Tool) (block : ToolBlock) :
    Except DeclarationFault Tool :=
  match block.handler.handler with
  | .error fault => .error fault
  | .ok handler =>
      Builder.complete { source, declared := earlier }
        { name := block.name, description := block.description,
          parameters := block.parameters, handler := some handler }

theorem ToolBlock.declared_eq_ok_iff (source : String) (earlier : List Tool) (block : ToolBlock)
    (tool : Tool) :
    block.declared source earlier = .ok tool ↔
      block.Declares source tool ∧ block.name ∉ earlier.map (·.name) := by
  unfold declared
  cases hhandler : block.handler.handler with
  | error fault =>
      have hnone : ¬ block.Declares source tool := by
        intro hdeclares
        rw [(HandlerBlock.handler_eq_ok_iff _ _).mpr hdeclares.handler_given] at hhandler
        cases hhandler
      simp [hnone]
  | ok handler =>
      have hgives : ∀ given, block.handler.Gives given ↔ given = handler := by
        intro given
        rw [← HandlerBlock.handler_eq_ok_iff, hhandler, Except.ok.injEq, eq_comm]
      have hdeclares : block.Declares source tool ↔
          tool.toToolSpec = ⟨block.name, block.description, block.parameters, handler⟩ ∧
            tool.source = source := by
        constructor
        · rintro ⟨hname, hdescription, hparameters, hgiven, hsource⟩
          have hsame := (hgives _).mp hgiven
          refine ⟨?_, hsource⟩
          rw [← hname, ← hdescription, ← hparameters, ← hsame]
        · rintro ⟨hspec, hsource⟩
          have hsame : tool.handler = handler := by
            rw [hspec]
          exact ⟨by rw [hspec], by rw [hspec], by rw [hspec], (hgives _).mpr hsame, hsource⟩
      rw [hdeclares, ← Tool.ofSpec_eq_ok_iff]
      simp only [Builder.complete]
      by_cases hthere : block.name ∈ earlier.map (·.name)
      · have hany : (earlier.any fun tool => tool.name == block.name) = true := by
          simpa using hthere
        simp only [hany, if_true, hthere, not_true, and_false, iff_false]
        rintro ⟨⟩
      · have hany : (earlier.any fun tool => tool.name == block.name) = false := by
          simpa using hthere
        simp only [hany, Bool.false_eq_true, if_false, hthere, not_false_iff, and_true]
        cases Tool.ofSpec ⟨block.name, block.description, block.parameters, handler⟩ source <;>
          simp

/-! ## All blocks -/

/-- The tools of blocks behind other tools of their script. -/
def declareAll (source : String) (earlier : List Tool) :
    List ToolBlock → Except DeclarationFault (List Tool)
  | [] => .ok earlier
  | block :: rest =>
      match block.declared source earlier with
      | .error fault => .error fault
      | .ok tool => declareAll source (earlier ++ [tool]) rest

theorem names_of_forall₂_declares {source : String} {blocks : List ToolBlock} {tools : List Tool}
    (hdeclares : List.Forall₂ (ToolBlock.Declares source) blocks tools) :
    tools.map (·.name) = blocks.map (·.name) := by
  induction hdeclares with
  | nil => rfl
  | cons hfirst _ ih => simp [hfirst.name_eq, ih]

theorem declareAll_eq_ok_iff (source : String) {earlier : List Tool}
    (hearlier : (earlier.map (·.name)).Nodup) (blocks : List ToolBlock) (tools : List Tool) :
    declareAll source earlier blocks = .ok tools ↔
      ∃ added, tools = earlier ++ added ∧
        List.Forall₂ (ToolBlock.Declares source) blocks added ∧
        (earlier.map (·.name) ++ blocks.map (·.name)).Nodup := by
  induction blocks generalizing earlier with
  | nil =>
      simp [declareAll, hearlier, eq_comm]
  | cons block rest ih =>
      have hfirst := block.declared_eq_ok_iff source earlier
      -- the name of the first block is none of the names before it
      have hfresh : (earlier.map (·.name) ++ (block :: rest).map (·.name)).Nodup →
          block.name ∉ earlier.map (·.name) := by
        intro hnodup hmem
        exact (List.nodup_append.mp hnodup).2.2 _ hmem _ (by simp) rfl
      unfold declareAll
      cases hdeclared : block.declared source earlier with
      | error fault =>
          simp only [reduceCtorEq, false_iff]
          rintro ⟨added, -, hall, hnodup⟩
          obtain ⟨tool, others, hdeclares, -, rfl⟩ := List.forall₂_cons_left_iff.mp hall
          rw [(hfirst tool).mpr ⟨hdeclares, hfresh hnodup⟩] at hdeclared
          cases hdeclared
      | ok tool =>
          obtain ⟨hdeclares, hname⟩ := (hfirst tool).mp hdeclared
          have hbehind : ((earlier ++ [tool]).map (·.name)).Nodup := by
            rw [List.map_append, List.nodup_append]
            refine ⟨hearlier, by simp, ?_⟩
            intro name hmem other hother heq
            rw [List.map_singleton, List.mem_singleton, hdeclares.name_eq] at hother
            exact hname (hother ▸ heq ▸ hmem)
          have hnames : (earlier ++ [tool]).map (·.name) ++ rest.map (·.name) =
              earlier.map (·.name) ++ (block :: rest).map (·.name) := by
            simp [hdeclares.name_eq]
          simp only [ih hbehind, hnames]
          constructor
          · rintro ⟨added, rfl, hall, hnodup⟩
            exact ⟨tool :: added, by simp, .cons hdeclares hall, hnodup⟩
          · rintro ⟨added, rfl, hall, hnodup⟩
            obtain ⟨first, others, hother, hothers, rfl⟩ := List.forall₂_cons_left_iff.mp hall
            have hsame := (hfirst first).mpr ⟨hother, hname⟩
            rw [hdeclared, Except.ok.injEq] at hsame
            exact ⟨others, by simp [hsame], hothers, hnodup⟩

end Script

end Toolbench
