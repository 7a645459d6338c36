import Toolbench.Proofs.Script.Evaluation
import Toolbench.Proofs.Template.CommandLine

/-!
# Commands as lines or words

A script may give a command as a line or as its words. Any words can be written as a line, and a
block with that line is the same to a builder as one with the words.
-/

namespace Toolbench

namespace Script

open CommandLine (Writes)

variable {line : String} {words : List String}

def ToolBlock.withShell (block : ToolBlock) (shell : ShellBlock) : ToolBlock :=
  { block with handler := { shell := some shell } }

/-! ## Lines that are split -/

theorem HandlerBlock.handler_words (shell : ShellBlock) (words : List String) :
    HandlerBlock.handler { shell := some { shell with command := .inr words } } =
      .ok (.shell (shell.withWords words)) :=
  rfl

theorem HandlerBlock.handler_line (hsplit : CommandLine.split line = .ok words)
    (shell : ShellBlock) :
    HandlerBlock.handler { shell := some { shell with command := .inl line } } =
      .ok (.shell (shell.withWords words)) := by
  simp [HandlerBlock.handler, hsplit, bind, Except.bind, ShellBlock.withWords]

theorem HandlerBlock.handler_line_eq_words (hsplit : CommandLine.split line = .ok words)
    (shell : ShellBlock) :
    HandlerBlock.handler { shell := some { shell with command := .inl line } } =
      HandlerBlock.handler { shell := some { shell with command := .inr words } } := by
  rw [handler_line hsplit, handler_words]

theorem ToolBlock.declared_line_eq_words (hsplit : CommandLine.split line = .ok words)
    (block : ToolBlock) (shell : ShellBlock) (source : String) (earlier : List Tool) :
    (block.withShell { shell with command := .inl line }).declared source earlier =
      (block.withShell { shell with command := .inr words }).declared source earlier := by
  have hhandler := HandlerBlock.handler_line_eq_words hsplit shell
  simp only [ToolBlock.declared, ToolBlock.withShell, hhandler]

/-- A line with an open quote declares no tool. -/
theorem ToolBlock.declared_open_line {fault : CommandLine.OpenQuote}
    (hsplit : CommandLine.split line = .error fault) (block : ToolBlock) (shell : ShellBlock)
    (source : String) (earlier : List Tool) :
    (block.withShell { shell with command := .inl line }).declared source earlier =
      .error (.openQuote fault) := by
  have hhandler : HandlerBlock.handler { shell := some { shell with command := .inl line } } =
      .error (.openQuote fault) := by
    simp [HandlerBlock.handler, hsplit, bind, Except.bind]
  simp only [ToolBlock.declared, ToolBlock.withShell, hhandler]

/-! ## Scripts -/

theorem Builder.declareBlock_line_eq_words (hsplit : CommandLine.split line = .ok words)
    (builder : Builder) (block : ToolBlock) (shell : ShellBlock) :
    builder.declareBlock (block.withShell { shell with command := .inl line }) =
      builder.declareBlock (block.withShell { shell with command := .inr words }) := by
  have hhandler := HandlerBlock.handler_line_eq_words hsplit shell
  rw [declareBlock_eq, declareBlock_eq]
  simp only [ToolBlock.withShell, hhandler]

/-- Blocks that are the same to every builder can stand for one another in a script. -/
theorem Builder.declareBlocks_congr {block other : ToolBlock}
    (hdeclare : ∀ builder : Builder, builder.declareBlock block = builder.declareBlock other)
    (henabled : block.enabled = other.enabled) (builder : Builder) (before after : List ToolBlock) :
    builder.declareBlocks (before ++ block :: after) =
      builder.declareBlocks (before ++ other :: after) := by
  induction before generalizing builder with
  | nil =>
      rw [List.nil_append, List.nil_append, declareBlocks, declareBlocks, henabled, hdeclare]
  | cons first before ih =>
      simp only [List.cons_append, declareBlocks, ih]

theorem Builder.evaluateBlocks_line_eq_words (hsplit : CommandLine.split line = .ok words)
    (builder : Builder) (before after : List ToolBlock) (block : ToolBlock) (shell : ShellBlock)
    (registry : Registry) :
    builder.evaluateBlocks
        (before ++ block.withShell { shell with command := .inl line } :: after) registry =
      builder.evaluateBlocks
        (before ++ block.withShell { shell with command := .inr words } :: after) registry := by
  have hsame : ∀ other : Builder,
      other.declareBlock (block.withShell { shell with command := .inl line }) =
        other.declareBlock (block.withShell { shell with command := .inr words }) :=
    fun other => declareBlock_line_eq_words hsplit other block shell
  rw [evaluateBlocks, evaluateBlocks, declareBlocks_congr hsame rfl builder before after]

/-! ## Both forms -/

/-- Any words can be written as a line of quotations with gaps between the words. Such a line is
split into the words, and in a script it is the same as the words. The tools that blocks declare
with a line are therefore the tools that they declare with words. -/
theorem line_or_words :
    (∀ words : List String, ∃ line : String, Writes words line.toList) ∧
    (∀ (words : List String) (line : String), Writes words line.toList →
      CommandLine.split line = .ok words ∧
      ∀ (block : ToolBlock) (shell : ShellBlock),
        (∀ source earlier,
          (block.withShell { shell with command := .inl line }).declared source earlier =
            (block.withShell { shell with command := .inr words }).declared source earlier) ∧
        ∀ (builder : Builder) (before after : List ToolBlock) (registry : Registry),
          builder.evaluateBlocks
              (before ++ block.withShell { shell with command := .inl line } :: after) registry =
            builder.evaluateBlocks
              (before ++ block.withShell { shell with command := .inr words } :: after)
              registry) ∧
    (∀ (block : ToolBlock) (shell : ShellBlock) (source : String) (earlier : List Tool)
      (tool : Tool),
      (∃ line, (block.withShell { shell with command := .inl line }).declared source earlier =
        .ok tool) ↔
      ∃ words, (block.withShell { shell with command := .inr words }).declared source earlier =
        .ok tool) := by
  refine ⟨CommandLine.exists_writes, ?_, ?_⟩
  · intro words line hline
    have hsplit := hline.split_eq
    refine ⟨hsplit, fun block shell => ⟨?_, ?_⟩⟩
    · exact ToolBlock.declared_line_eq_words hsplit block shell
    · intro builder before after registry
      exact Builder.evaluateBlocks_line_eq_words hsplit builder before after block shell registry
  · intro block shell source earlier tool
    constructor
    · rintro ⟨line, hdeclared⟩
      cases hsplit : CommandLine.split line with
      | ok words =>
          rw [ToolBlock.declared_line_eq_words hsplit] at hdeclared
          exact ⟨words, hdeclared⟩
      | error fault =>
          rw [ToolBlock.declared_open_line hsplit] at hdeclared
          cases hdeclared
    · rintro ⟨words, hdeclared⟩
      obtain ⟨line, hline⟩ := CommandLine.exists_writes words
      rw [← ToolBlock.declared_line_eq_words hline.split_eq] at hdeclared
      exact ⟨line, hdeclared⟩

/-- An empty word, one with both kinds of quotes and one that begins with a blank. -/
theorem line_or_words_marks :
    CommandLine.split "''\u2003 \"it's \"'\"so\"'\t'\u2003x'" =
      .ok ["", "it's \"so\"", "\u2003x"] := by
  have hempty : CommandLine.WritesWord "".toList "''".toList :=
    .single ⟨'\'', [], rfl, by decide⟩
  have hquotes : CommandLine.WritesWord "it's \"so\"".toList "\"it's \"'\"so\"'".toList :=
    .cons ⟨'"', "it's ".toList, rfl, by decide⟩ (.single ⟨'\'', "\"so\"".toList, rfl, by decide⟩)
  have hblank : CommandLine.WritesWord "\u2003x".toList "'\u2003x'".toList :=
    .single ⟨'\'', "\u2003x".toList, rfl, by decide⟩
  have hwide : CommandLine.IsGap "\u2003 ".toList :=
    ⟨List.cons_ne_nil _ _, List.all_eq_true.mp rfl⟩
  have htab : CommandLine.IsGap "\t".toList :=
    ⟨List.cons_ne_nil _ _, List.all_eq_true.mp rfl⟩
  exact (line_or_words.2.1 _ _ (.cons hempty hwide (.cons hquotes htab (.single hblank)))).1

end Script

end Toolbench
