import Toolbench.Proofs.Template.Weaving

/-!
# Filling in arguments

A filled template depends on the arguments that its placeholders name and on no others. Where
it is filled by plain texts, it is its pieces with these texts woven in, so a text without
placeholders stays as it is.
-/

namespace Toolbench

namespace Template

theorem weave_spelling_pieces (template : String) :
    weave (fun name => spelling (.placeholder name)) (pieces template) = template.toList :=
  weave_spelling_piecesFrom false template.toList

theorem mem_placeholders_iff (template name : String) :
    name ∈ placeholders template ↔ .placeholder name.toList ∈ pieces template := by
  rw [placeholders, List.mem_filterMap]
  constructor
  · rintro ⟨piece, hpiece, hname⟩
    cases piece with
    | char c =>
        cases hname
    | placeholder letters =>
        obtain rfl := Option.some.inj hname
        rwa [String.toList_ofList]
  · intro hpiece
    exact ⟨_, hpiece, congrArg some String.ofList_toList⟩

section Dependence

variable {m : Type → Type} [Monad m] {encode : List Char → Option Json → m (List Char)}
  {left right : Arguments}

theorem fillPieces_congr (seen : List Char) {pieces : List Piece}
    (hsame : ∀ name, .placeholder name ∈ pieces →
      left.find? (String.ofList name) = right.find? (String.ofList name)) :
    fillPieces encode left seen pieces = fillPieces encode right seen pieces := by
  induction pieces generalizing seen with
  | nil =>
      rfl
  | cons piece rest ih =>
      have hrest := fun seen => ih seen fun name hname => hsame name (List.mem_cons_of_mem _ hname)
      cases piece with
      | char c => rw [fillPieces, fillPieces, hrest]
      | placeholder name => rw [fillPieces, fillPieces, hrest, hsame name List.mem_cons_self]

theorem renderWith_congr {template : String}
    (hsame : ∀ name ∈ placeholders template, left.find? name = right.find? name) :
    renderWith encode template left = renderWith encode template right := by
  have hfill : fillPieces encode left [] (pieces template) =
      fillPieces encode right [] (pieces template) := by
    refine fillPieces_congr [] fun name hname => hsame _ ?_
    rwa [mem_placeholders_iff, String.toList_ofList]
  rw [renderWith, renderWith, hfill]

theorem render_congr {template : String}
    (hsame : ∀ name ∈ placeholders template, left.find? name = right.find? name) :
    render template left = render template right :=
  renderWith_congr hsame

end Dependence

theorem fillPieces_eq_weave (arguments : Arguments) (seen : List Char) (pieces : List Piece) :
    fillPieces (m := Id) (fun _ value => argumentText value) arguments seen pieces =
      weave (fun name => argumentText (arguments.find? (String.ofList name))) pieces := by
  induction pieces generalizing seen with
  | nil =>
      rfl
  | cons piece rest ih =>
      cases piece with
      | char c => rw [weave, ← ih (c :: seen)]; rfl
      | placeholder name =>
          rw [weave, ← ih ((spelling (.placeholder name)).reverse ++ seen)]
          rfl

/-- Each placeholder becomes the plain text of its argument, in one pass. -/
theorem toList_render (template : String) (arguments : Arguments) :
    (render template arguments).toList =
      weave (fun name => argumentText (arguments.find? (String.ofList name)))
        (pieces template) := by
  rw [← fillPieces_eq_weave arguments []]
  exact String.toList_ofList

theorem render_eq_self {template : String} (hnone : placeholders template = [])
    (arguments : Arguments) : render template arguments = template := by
  have hchars : ∀ name, .placeholder name ∉ pieces template := by
    intro name hname
    have hmem : String.ofList name ∈ placeholders template := by
      rwa [mem_placeholders_iff, String.toList_ofList]
    rw [hnone] at hmem
    cases hmem
  have hspelled := weave_spelling_pieces template
  rw [← weave_congr_of_no_placeholder _ _ hchars, ← toList_render template arguments] at hspelled
  exact String.toList_injective hspelled

/-- A text is one placeholder if it is spelled as one, and nothing else is. -/
theorem sole?_eq_some_iff (word name : String) :
    sole? word = some name ↔
      Name.isIdentifier name.toList ∧
        word = String.ofList (spelling (.placeholder name.toList)) := by
  rw [← String.toList_inj, String.toList_ofList]
  unfold sole?
  constructor
  · intro hsole
    split at hsole
    · rename_i letters hpieces
      obtain rfl := Option.some.inj hsole
      rw [String.toList_ofList]
      refine ⟨isIdentifier_of_mem_piecesFrom false word.toList ?_, ?_⟩
      · rw [← pieces, hpieces]
        exact List.mem_singleton_self _
      · rw [← weave_spelling_pieces, hpieces, weave, weave, List.append_nil]
    · cases hsole
  · rintro ⟨hidentifier, hword⟩
    have hpieces := piecesFrom_spelling_append hidentifier []
    rw [List.append_nil, ← hword, ← pieces, piecesFrom] at hpieces
    simp only [hpieces, String.ofList_toList]

theorem mem_placeholders_of_sole? {word name : String} (hsole : sole? word = some name) :
    name ∈ placeholders word := by
  unfold sole? at hsole
  split at hsole
  · rename_i letters hpieces
    obtain rfl := Option.some.inj hsole
    simp [placeholders, hpieces, placeholder?]
  · cases hsole

end Template

end Toolbench
