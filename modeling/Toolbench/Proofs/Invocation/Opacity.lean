import Toolbench.Proofs.Invocation.Address
import Toolbench.Proofs.Json.Members
import Toolbench.Proofs.Template.Filling
import Toolbench.Proofs.Template.Span

/-!
# Values of variables in addresses and headers

Addresses and header values are expanded first and filled with arguments then, so placeholders
are also looked for in the values of variables. That is the same as filling the template once, for
all arguments, exactly where the values do not disturb the placeholders.
-/

namespace Toolbench

namespace Request

open Template Text.Percent

/-- Arguments with the letter x for every placeholder among pieces. -/
def sampleArguments (pieces : List Piece) : Arguments :=
  Json.Members.ofList ((pieces.filterMap placeholder?).map fun name => (name, .string "x"))

theorem valueOf_sampleArguments {pieces : List Piece} {name : List Char}
    (hname : .placeholder name ∈ pieces) : valueOf (sampleArguments pieces) name = ['x'] := by
  have hnames : String.ofList name ∈ pieces.filterMap placeholder? :=
    List.mem_filterMap.mpr ⟨_, hname, rfl⟩
  have hfind : ∀ names : List String, String.ofList name ∈ names →
      Json.Members.find? (String.ofList name) (names.map fun name => (name, Json.string "x")) =
        some (.string "x") := by
    intro names hmem
    induction names with
    | nil => cases hmem
    | cons first rest ih =>
        by_cases hfirst : first = String.ofList name
        · simp [Json.Members.find?, hfirst]
        · have hrest := (List.mem_cons.mp hmem).resolve_left fun h => hfirst h.symm
          simp [Json.Members.find?, hfirst, ih hrest]
  have hvalue := hfind (pieces.filterMap placeholder?).reverse (List.mem_reverse.mpr hnames)
  rw [valueOf, sampleArguments, Json.Members.find?_ofList, ← List.map_reverse, hvalue]
  rfl

theorem fillPieces_urlImage_eq_ok {arguments : Arguments} (seen : List Char) {pieces : List Piece}
    (hvalues : ∀ name, .placeholder name ∈ pieces →
      valueOf arguments name ≠ ['.'] ∧ valueOf arguments name ≠ ['.', '.']) :
    fillPieces urlImage arguments seen pieces =
      .ok (weave (encodedValue (valueOf arguments)) pieces) := by
  induction pieces generalizing seen with
  | nil =>
      rfl
  | cons piece rest ih =>
      have hrest := fun seen => ih seen fun name hname =>
        hvalues name (List.mem_cons_of_mem _ hname)
      cases piece with
      | char c =>
          rw [fillPieces, hrest]
          rfl
      | placeholder name =>
          obtain ⟨hdot, hdots⟩ := hvalues name List.mem_cons_self
          have himage : urlImage seen.reverse (arguments.find? (String.ofList name)) =
              .ok (encodedValue (valueOf arguments) name) := by
            unfold urlImage
            rw [if_neg]
            · rfl
            · simpa [valueOf] using fun _ => And.intro hdot hdots
          rw [fillPieces, himage]
          simp only [hrest]
          rfl

theorem urlText_eq_ok {template : String} {arguments : Arguments}
    (hvalues : ∀ name, .placeholder name ∈ pieces template →
      valueOf arguments name ≠ ['.'] ∧ valueOf arguments name ≠ ['.', '.']) :
    urlText template arguments = .ok (String.ofList (filledText template arguments)) := by
  rw [urlText, renderWith, fillPieces_urlImage_eq_ok [] hvalues]
  rfl

theorem exists_sample (environment : Environment) (template : String) :
    ∃ arguments : Arguments,
      (∀ name, .placeholder name ∈ pieces (environment.expand template) →
        valueOf arguments name = ['x']) ∧
      ∀ name, .placeholder name ∈ woven environment template → valueOf arguments name = ['x'] :=
  ⟨sampleArguments (pieces (environment.expand template) ++ woven environment template),
    fun _ hname => valueOf_sampleArguments (List.mem_append_left _ hname),
    fun _ hname => valueOf_sampleArguments (List.mem_append_right _ hname)⟩

theorem headerText_eq_iff (environment : Environment) {template : String}
    (hrefers : refersByIdentifier template.toList) :
    (∀ arguments, headerText environment template arguments =
        String.ofList (filledOnce environment (valueOf arguments) template)) ↔
      Undisturbed environment template := by
  have hrendered : ∀ arguments, headerText environment template arguments =
      String.ofList (weave (valueOf arguments) (pieces (environment.expand template))) := by
    intro arguments
    exact String.toList_injective
      ((toList_render _ arguments).trans String.toList_ofList.symm)
  constructor
  · intro hfilled
    obtain ⟨arguments, hread, hmeant⟩ := exists_sample environment template
    have hsame := (hrendered arguments).symm.trans (hfilled arguments)
    rw [← weave_woven] at hsame
    exact undisturbed_of_weave_eq hrefers hread hmeant (String.ofList_injective hsame)
  · intro hundisturbed arguments
    rw [hrendered, (pieces_expand_eq_iff environment hrefers).mpr hundisturbed, weave_woven]

theorem urlText_eq_iff (environment : Environment) {template : String}
    (hrefers : refersByIdentifier template.toList) :
    (∀ arguments text, urlText (environment.expand template) arguments = .ok text →
        text = String.ofList (filledOnce environment (encodedValue (valueOf arguments)) template)) ↔
      Undisturbed environment template := by
  constructor
  · intro hfilled
    obtain ⟨arguments, hread, hmeant⟩ := exists_sample environment template
    have hencoded : ∀ name, valueOf arguments name = ['x'] →
        encodedValue (valueOf arguments) name = ['x'] := by
      intro name hname
      rw [encodedValue, hname]
      rfl
    have htext : urlText (environment.expand template) arguments =
        .ok (String.ofList (filledText (environment.expand template) arguments)) := by
      refine urlText_eq_ok fun name hname => ?_
      rw [hread name hname]
      decide
    have hsame := String.ofList_injective (hfilled arguments _ htext)
    rw [filledText, ← weave_woven] at hsame
    exact undisturbed_of_weave_eq hrefers (fun name hname => hencoded name (hread name hname))
      (fun name hname => hencoded name (hmeant name hname)) hsame
  · intro hundisturbed arguments text htext
    rw [eq_filledText_of_urlText htext, filledText,
      (pieces_expand_eq_iff environment hrefers).mpr hundisturbed, weave_woven]

/-- The references and placeholders of a template are those that expanding and filling look for.
Its header value, and the text of its address, is the template filled in one pass for all
arguments exactly where the values of the variables do not disturb the placeholders. They do not
where no value and no literal character is a brace or a dollar sign. -/
theorem filledOnce_iff_undisturbed (environment : Environment) {template : String}
    (hrefers : refersByIdentifier template.toList) :
    Environment.references template = (spans template.toList).filterMap Span.reference? ∧
    placeholders template = (spans template.toList).filterMap Span.placeholder? ∧
    ((∀ arguments, headerText environment template arguments =
        String.ofList (filledOnce environment (valueOf arguments) template)) ↔
      Undisturbed environment template) ∧
    ((∀ arguments text, urlText (environment.expand template) arguments = .ok text →
        text = String.ofList (filledOnce environment (encodedValue (valueOf arguments)) template)) ↔
      Undisturbed environment template) ∧
    ((∀ span ∈ spans template.toList, span.Quiet environment) →
      Undisturbed environment template) :=
  ⟨references_eq hrefers, placeholders_eq hrefers, headerText_eq_iff environment hrefers,
    urlText_eq_iff environment hrefers, undisturbed_of_quiet⟩

/-- An argument that looks like a placeholder or a reference stays as it is. -/
theorem filledOnce_token :
    headerText [("TOKEN", "s3cret")] "Bearer $\x7bTOKEN\x7d for \x7buser\x7d"
        [("user", .string "\x7buser\x7d $\x7bTOKEN\x7d")] =
      "Bearer s3cret for \x7buser\x7d $\x7bTOKEN\x7d" := by
  have hrefers : refersByIdentifier "Bearer $\x7bTOKEN\x7d for \x7buser\x7d".toList := by
    decide +kernel
  obtain ⟨-, -, hheader, -, -⟩ := filledOnce_iff_undisturbed [("TOKEN", "s3cret")] hrefers
  rw [hheader.mpr (by decide +kernel)]
  decide +kernel

/-- A name in braces in the value of a variable is taken for a placeholder. -/
theorem headerText_disturbed :
    ¬ ∀ (environment : Environment) (template : String) (arguments : Arguments),
      refersByIdentifier template.toList →
        headerText environment template arguments =
          String.ofList (filledOnce environment (valueOf arguments) template) := by
  intro hall
  have hsame := hall [("TOKEN", "a\x7buser\x7db")] "Bearer $\x7bTOKEN\x7d" [] (by decide +kernel)
  have hlost : headerText [("TOKEN", "a\x7buser\x7db")] "Bearer $\x7bTOKEN\x7d" [] =
      "Bearer ab" := by
    decide +kernel
  have hmeant : filledOnce [("TOKEN", "a\x7buser\x7db")] (valueOf []) "Bearer $\x7bTOKEN\x7d" =
      "Bearer a\x7buser\x7db".toList := by
    decide +kernel
  rw [hlost, hmeant, String.ofList_toList] at hsame
  revert hsame
  decide

end Request

end Toolbench
