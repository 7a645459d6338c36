import Toolbench.Proofs.Environment.Expansion
import Toolbench.Proofs.Template.Reading

/-!
# References and placeholders in one pass

A template whose references name variables by identifiers is read in one pass as characters,
references and placeholders, and filled in one pass from an environment and the arguments. The
template that is expanded first has the same placeholders only where no value and no literal
character disturbs them.
-/

namespace Toolbench

namespace Template

/-- A part of a template that refers to variables by identifiers. -/
inductive Span where
  | char (c : Char)
  | reference (name : List Char)
  | placeholder (name : List Char)

namespace Span

def written : Span → List Char
  | char c => [c]
  | reference name => '$' :: spelling (.placeholder name)
  | placeholder name => spelling (.placeholder name)

def reference? : Span → Option String
  | reference name => some (String.ofList name)
  | _ => none

def placeholder? : Span → Option String
  | placeholder name => some (String.ofList name)
  | _ => none

/-- What a part is filled with: the value of a variable as it is, a reference to one that is not
set as it is written, and the image of a placeholder. -/
def fill (environment : Environment) (image : List Char → List Char) : Span → List Char
  | char c => [c]
  | reference name =>
      match environment.get? (String.ofList name) with
      | some value => value.toList
      | none => written (reference name)
  | placeholder name => image name

end Span

/-- The reference or placeholder that a text starts with and the text behind it. -/
def lead? : List Char → Option (Span × List Char)
  | '$' :: '{' :: rest => (closeName? rest).map fun (name, behind) => (.reference name, behind)
  | '{' :: rest => (closeName? rest).map fun (name, behind) => (.placeholder name, behind)
  | _ => none

theorem lead?_eq_some {text behind : List Char} {span : Span}
    (hlead : lead? text = some (span, behind)) :
    ∃ name, Name.isIdentifier name ∧ (span = .reference name ∨ span = .placeholder name) ∧
      text = span.written ++ behind := by
  unfold lead? at hlead
  split at hlead
  · obtain ⟨⟨name, _⟩, hclose, hspan⟩ := Option.map_eq_some_iff.mp hlead
    obtain ⟨rfl, rfl⟩ := Prod.mk.inj hspan
    obtain ⟨hname, rfl⟩ := (closeName?_eq_some_iff _ _ _).mp hclose
    exact ⟨name, hname, Or.inl rfl, by simp [Span.written, spelling]⟩
  · obtain ⟨⟨name, _⟩, hclose, hspan⟩ := Option.map_eq_some_iff.mp hlead
    obtain ⟨rfl, rfl⟩ := Prod.mk.inj hspan
    obtain ⟨hname, rfl⟩ := (closeName?_eq_some_iff _ _ _).mp hclose
    exact ⟨name, hname, Or.inr rfl, by simp [Span.written, spelling]⟩
  · cases hlead

theorem length_lt_of_lead? {text behind : List Char} {span : Span}
    (hlead : lead? text = some (span, behind)) : behind.length < text.length := by
  obtain ⟨name, -, rfl | rfl, rfl⟩ := lead?_eq_some hlead
  · simp only [Span.written, List.cons_append, List.length_cons, List.length_append]
    omega
  · simp only [Span.written, spelling, List.cons_append, List.length_cons, List.length_append]
    omega

/-- The parts of a text. -/
def spans : List Char → List Span
  | [] => []
  | c :: rest =>
      match _h : lead? (c :: rest) with
      | some (span, behind) => span :: spans behind
      | none => .char c :: spans rest
termination_by text => text.length
decreasing_by
  · exact length_lt_of_lead? _h
  · simp

theorem spans_of_lead?_eq_some {c : Char} {rest behind : List Char} {span : Span}
    (hlead : lead? (c :: rest) = some (span, behind)) :
    spans (c :: rest) = span :: spans behind := by
  rw [spans]
  split
  · rename_i hfound
    obtain ⟨rfl, rfl⟩ := Prod.mk.inj (Option.some.inj (hlead.symm.trans hfound))
    rfl
  · rename_i hnone
    rw [hlead] at hnone
    cases hnone

theorem spans_of_lead?_eq_none {c : Char} {rest : List Char} (hlead : lead? (c :: rest) = none) :
    spans (c :: rest) = .char c :: spans rest := by
  rw [spans]
  split
  · rename_i hfound
    rw [hlead] at hfound
    cases hfound
  · rfl

/-- Whether each dollar sign before an opening brace begins a reference by an identifier. -/
def refersByIdentifier : List Char → Bool
  | [] => true
  | c :: rest =>
      (c != '$' || rest.head? != some '{' || (closeName? rest.tail).isSome) &&
        refersByIdentifier rest

theorem refersByIdentifier_of_append (front : List Char) {rest : List Char}
    (hrefers : refersByIdentifier (front ++ rest)) : refersByIdentifier rest := by
  induction front with
  | nil =>
      exact hrefers
  | cons c front ih =>
      rw [List.cons_append, refersByIdentifier, Bool.and_eq_true] at hrefers
      exact ih hrefers.2

/-- A dollar sign that begins no reference does not stand before an opening brace. -/
theorem head?_ne_of_lead?_eq_none {rest : List Char} (hrefers : refersByIdentifier ('$' :: rest))
    (hlead : lead? ('$' :: rest) = none) : rest.head? ≠ some '{' := by
  intro hhead
  obtain ⟨behind, rfl⟩ := List.head?_eq_some_iff.mp hhead
  rw [refersByIdentifier, Bool.and_eq_true] at hrefers
  rw [lead?, Option.map_eq_none_iff] at hlead
  simp [hlead] at hrefers

/-- A text with parts, by the first of them: a character that begins nothing, a reference or a
placeholder. -/
theorem spans_induction {motive : List Char → Prop} (nil : motive [])
    (char : ∀ c rest, lead? (c :: rest) = none →
      spans (c :: rest) = .char c :: spans rest → motive rest → motive (c :: rest))
    (reference : ∀ name rest, Name.isIdentifier name →
      spans ((Span.reference name).written ++ rest) = .reference name :: spans rest →
        motive rest → motive ((Span.reference name).written ++ rest))
    (placeholder : ∀ name rest, Name.isIdentifier name →
      spans ((Span.placeholder name).written ++ rest) = .placeholder name :: spans rest →
        motive rest → motive ((Span.placeholder name).written ++ rest))
    (text : List Char) : motive text := by
  induction text using spans.induct with
  | case1 => exact nil
  | case2 c rest span behind hlead ih =>
      have hspans := spans_of_lead?_eq_some hlead
      obtain ⟨name, hname, rfl | rfl, htext⟩ := lead?_eq_some hlead
      · rw [htext] at hspans ⊢
        exact reference name behind hname hspans ih
      · rw [htext] at hspans ⊢
        exact placeholder name behind hname hspans ih
  | case3 c rest hlead ih =>
      exact char c rest hlead (spans_of_lead?_eq_none hlead) ih

/-- The parts of a text spell it. -/
theorem flatMap_written_spans (text : List Char) : (spans text).flatMap Span.written = text := by
  induction text using spans_induction with
  | nil => simp [spans]
  | char c rest hlead hspans ih => rw [hspans, List.flatMap_cons, ih]; rfl
  | reference name rest hname hspans ih => rw [hspans, List.flatMap_cons, ih]
  | placeholder name rest hname hspans ih => rw [hspans, List.flatMap_cons, ih]

theorem isIdentifier_of_mem_spans {text name : List Char}
    (hmem : .placeholder name ∈ spans text) : Name.isIdentifier name := by
  induction text using spans_induction with
  | nil => simp [spans] at hmem
  | char c rest hlead hspans ih =>
      rw [hspans] at hmem
      exact ih (by simpa using hmem)
  | reference other rest hother hspans ih =>
      rw [hspans] at hmem
      exact ih (by simpa using hmem)
  | placeholder other rest hother hspans ih =>
      rw [hspans] at hmem
      rcases List.mem_cons.mp hmem with hsame | hrest
      · exact Span.placeholder.inj hsame ▸ hother
      · exact ih hrest

/-- The pieces that expanding sees in a part. -/
def Span.environmentPieces : Span → List Environment.Piece
  | char c => [.char c]
  | reference name => [.reference name]
  | placeholder name => (spelling (.placeholder name)).map .char

theorem not_mem_of_isIdentifier {name : List Char} (hname : Name.isIdentifier name) {c : Char}
    (hpart : Name.isPart c = false) : c ∉ name := by
  intro hc
  rw [isPart_of_isIdentifier hname c hc] at hpart
  cases hpart

/-- Expanding sees the references of the parts and no others. -/
theorem environment_pieces_eq {text : List Char} (hrefers : refersByIdentifier text) :
    Environment.pieces text = (spans text).flatMap Span.environmentPieces := by
  induction text using spans_induction with
  | nil =>
      simp [spans, Environment.pieces]
  | char c rest hlead hspans ih =>
      have hrest : refersByIdentifier rest := refersByIdentifier_of_append [c] hrefers
      have hplain : c = '$' → rest.head? ≠ some '{' := by
        rintro rfl
        exact head?_ne_of_lead?_eq_none hrefers hlead
      rw [hspans, Environment.pieces_char_cons hplain, ih hrest]
      rfl
  | reference name rest hname hspans ih =>
      have hsome : name ≠ [] := by
        rintro rfl
        cases hname
      have hopen : '}' ∉ name := not_mem_of_isIdentifier hname (by decide)
      rw [hspans, List.flatMap_cons, ← ih (refersByIdentifier_of_append _ hrefers)]
      simpa [Span.written, spelling, Span.environmentPieces] using
        Environment.pieces_reference_append hsome hopen rest
  | placeholder name rest hname hspans ih =>
      have hplain : '$' ∉ (Span.placeholder name).written := by
        intro hmem
        exact absurd (eq_or_isPart_of_mem_spelling hname hmem) (by decide)
      rw [hspans, List.flatMap_cons, ← ih (refersByIdentifier_of_append _ hrefers)]
      exact Environment.pieces_chars_append hplain rest

theorem filterMap_flatMap_eq {α β γ : Type} {parts : α → List β} {part? : β → Option γ}
    {whole? : α → Option γ} (hsame : ∀ a, (parts a).filterMap part? = (whole? a).toList)
    (list : List α) : (list.flatMap parts).filterMap part? = list.filterMap whole? := by
  induction list with
  | nil =>
      rfl
  | cons a rest ih =>
      rw [List.flatMap_cons, List.filterMap_append, ih, hsame]
      cases hwhole : whole? a with
      | none => simp [hwhole]
      | some c => simp [hwhole]

theorem references_eq {template : String} (hrefers : refersByIdentifier template.toList) :
    Environment.references template = (spans template.toList).filterMap Span.reference? := by
  rw [Environment.references, environment_pieces_eq hrefers]
  apply filterMap_flatMap_eq
  intro span
  cases span with
  | char c => rfl
  | reference name => rfl
  | placeholder name =>
      rw [Span.environmentPieces, List.filterMap_map]
      simp [Function.comp_def, Environment.reference?, Span.reference?]

/-- A template filled in one pass. -/
def filledOnce (environment : Environment) (image : List Char → List Char) (template : String) :
    List Char :=
  (spans template.toList).flatMap (Span.fill environment image)

/-- The pieces of a part whose variable has been expanded. -/
def Span.woven (environment : Environment) : Span → List Piece
  | char c => [.char c]
  | reference name => ((reference name).fill environment fun _ => []).map .char
  | placeholder name => [.placeholder name]

/-- The pieces of an expanded template if its placeholders are those of the template. -/
def woven (environment : Environment) (template : String) : List Piece :=
  (spans template.toList).flatMap (Span.woven environment)

theorem weave_span (environment : Environment) (image : List Char → List Char) (span : Span) :
    weave image (span.woven environment) = span.fill environment image := by
  cases span with
  | char c => rfl
  | reference name =>
      have hchars := weave_chars_append image
        ((Span.reference name).fill environment fun _ => []) []
      rw [List.append_nil, weave, List.append_nil] at hchars
      exact hchars
  | placeholder name =>
      rw [Span.woven, weave, weave, List.append_nil, Span.fill]

theorem weave_spans (environment : Environment) (image : List Char → List Char)
    (spans : List Span) :
    weave image (spans.flatMap (Span.woven environment)) =
      spans.flatMap (Span.fill environment image) := by
  induction spans with
  | nil =>
      rfl
  | cons span rest ih =>
      rw [List.flatMap_cons, List.flatMap_cons, weave_append, weave_span, ih]

theorem weave_woven (environment : Environment) (image : List Char → List Char)
    (template : String) :
    weave image (woven environment template) = filledOnce environment image template :=
  weave_spans environment image (spans template.toList)

theorem isIdentifier_of_mem_woven {environment : Environment} {template : String}
    {name : List Char} (hmem : .placeholder name ∈ woven environment template) :
    Name.isIdentifier name := by
  obtain ⟨span, hspan, hpiece⟩ := List.mem_flatMap.mp hmem
  cases span with
  | char c => simp [Span.woven] at hpiece
  | reference other =>
      obtain ⟨c, -, hc⟩ := List.mem_map.mp hpiece
      cases hc
  | placeholder other =>
      obtain rfl := Piece.placeholder.inj (List.mem_singleton.mp hpiece)
      exact isIdentifier_of_mem_spans hspan

/-- An expanded template is its parts with the values of their variables. -/
theorem toList_expand (environment : Environment) {template : String}
    (hrefers : refersByIdentifier template.toList) :
    (environment.expand template).toList = spelled (woven environment template) := by
  have hspan : ∀ span : Span, span.environmentPieces.flatMap (Environment.expandPiece environment) =
      span.fill environment fun name => spelling (.placeholder name) := by
    intro span
    cases span with
    | char c => rfl
    | reference name =>
        rw [Span.environmentPieces, List.flatMap_singleton, Environment.expandPiece, Span.fill]
        cases environment.get? (String.ofList name) with
        | none => simp [Span.written, spelling]
        | some value => rfl
    | placeholder name =>
        rw [Span.environmentPieces, List.flatMap_map, Span.fill]
        simp [Environment.expandPiece]
  rw [spelled, weave_woven, filledOnce, Environment.expand, String.toList_ofList,
    environment_pieces_eq hrefers, List.flatMap_assoc]
  simp only [hspan]

/-- Whether the placeholders of an expanded template are those of the template: none of them
stands behind a dollar sign, and no other brace begins a name that is closed. -/
def Undisturbed (environment : Environment) (template : String) : Prop :=
  standsFrom false (woven environment template) = true

instance (environment : Environment) (template : String) :
    Decidable (Undisturbed environment template) :=
  inferInstanceAs (Decidable (_ = true))

theorem pieces_expand_eq_iff (environment : Environment) {template : String}
    (hrefers : refersByIdentifier template.toList) :
    pieces (environment.expand template) = woven environment template ↔
      Undisturbed environment template := by
  rw [pieces, toList_expand environment hrefers]
  exact piecesFrom_spelled_iff false fun name => isIdentifier_of_mem_woven

/-- It is enough to fill every placeholder with the letter x to see whether one is disturbed. -/
theorem undisturbed_of_weave_eq {environment : Environment} {template : String}
    (hrefers : refersByIdentifier template.toList) {value : List Char → List Char}
    (hread : ∀ name, .placeholder name ∈ pieces (environment.expand template) → value name = ['x'])
    (hmeant : ∀ name, .placeholder name ∈ woven environment template → value name = ['x'])
    (hsame : weave value (pieces (environment.expand template)) =
      weave value (woven environment template)) :
    Undisturbed environment template := by
  have hspelled : spelled (pieces (environment.expand template)) =
      spelled (woven environment template) := by
    rw [← toList_expand environment hrefers]
    exact weave_spelling_piecesFrom false _
  rw [weave_congr hread, weave_congr hmeant] at hsame
  rw [← pieces_expand_eq_iff environment hrefers]
  exact eq_of_weave_eq (fun name => isIdentifier_of_mem_piecesFrom false _)
    (fun name => isIdentifier_of_mem_woven) hspelled hsame

theorem standsFrom_chars_append (text : List Char) (hplain : ∀ c ∈ text, c ≠ '{' ∧ c ≠ '$')
    {rest : List Piece} (hrest : standsFrom false rest) :
    standsFrom false (text.map .char ++ rest) := by
  induction text with
  | nil =>
      exact hrest
  | cons c text ih =>
      obtain ⟨hbrace, hdollar⟩ := hplain c List.mem_cons_self
      have htext := ih fun d hd => hplain d (List.mem_cons_of_mem _ hd)
      rw [List.map_cons, List.cons_append, standsFrom_char_cons, decide_eq_false hdollar]
      exact ⟨fun hopens => absurd hopens hbrace, htext⟩

/-- A reference to a variable that is not set is left as it is written. -/
theorem standsFrom_reference_append {name : List Char} (hname : Name.isIdentifier name)
    {rest : List Piece} (hrest : standsFrom false rest) :
    standsFrom false ((Span.reference name).written.map .char ++ rest) := by
  have hplain : ∀ c ∈ name ++ ['}'], c ≠ '{' ∧ c ≠ '$' := by
    intro c hc
    rcases List.mem_append.mp hc with hpart | hclose
    · have hidentifier := isPart_of_isIdentifier hname c hpart
      constructor <;> rintro rfl <;> cases hidentifier
    · obtain rfl := List.mem_singleton.mp hclose
      decide
  have hbehind := standsFrom_chars_append _ hplain hrest
  rw [Span.written, spelling, List.cons_append, List.map_cons, List.map_cons, List.cons_append,
    List.cons_append, standsFrom_char_cons, standsFrom_char_cons]
  refine ⟨fun hopens => ?_, fun _ hdollar => ?_, ?_⟩
  · cases hopens
  · cases hdollar
  · exact hbehind

theorem spelled_woven_nil (text : List Char) :
    spelled ((spans text).flatMap (Span.woven [])) = text := by
  have hspan : ∀ span : Span,
      span.fill [] (fun name => spelling (.placeholder name)) = span.written := by
    intro span
    cases span with
    | char c => rfl
    | reference name => rw [Span.fill, Environment.get?_nil]
    | placeholder name => rfl
  rw [spelled, weave_spans, funext hspan, flatMap_written_spans]

/-- Without variables, a template keeps its placeholders. -/
theorem standsFrom_woven_nil {text : List Char} (hrefers : refersByIdentifier text) :
    standsFrom false ((spans text).flatMap (Span.woven [])) := by
  induction text using spans_induction with
  | nil => simp [spans, standsFrom]
  | char c rest hlead hspans ih =>
      have hspelled := spelled_woven_nil rest
      have hrest := ih (refersByIdentifier_of_append [c] hrefers)
      rw [hspans, List.flatMap_cons, Span.woven, List.singleton_append, standsFrom_char_cons]
      constructor
      · rintro rfl -
        rw [hspelled]
        simpa [lead?] using hlead
      · by_cases hdollar : c = '$'
        · -- what follows a dollar sign that begins no reference does not open a placeholder
          subst hdollar
          have hhead := head?_ne_of_lead?_eq_none hrefers hlead
          refine standsFrom_true hrest fun name hname => hhead ?_
          obtain ⟨others, hpieces⟩ := List.head?_eq_some_iff.mp hname
          rw [← hspelled, hpieces, spelled_placeholder_cons, List.head?_cons]
        · rw [decide_eq_false hdollar]
          exact hrest
  | reference name rest hname hspans ih =>
      have hrest := ih (refersByIdentifier_of_append _ hrefers)
      rw [hspans, List.flatMap_cons, Span.woven, Span.fill, Environment.get?_nil]
      exact standsFrom_reference_append hname hrest
  | placeholder name rest hname hspans ih =>
      have hrest := ih (refersByIdentifier_of_append _ hrefers)
      rw [hspans, List.flatMap_cons, Span.woven, List.singleton_append, standsFrom]
      exact hrest

theorem placeholders_eq {template : String} (hrefers : refersByIdentifier template.toList) :
    placeholders template = (spans template.toList).filterMap Span.placeholder? := by
  have hpieces := (pieces_expand_eq_iff [] hrefers).mpr (standsFrom_woven_nil hrefers)
  rw [Environment.expand_nil] at hpieces
  rw [placeholders, hpieces]
  apply filterMap_flatMap_eq
  intro span
  cases span with
  | placeholder name => rfl
  | char c => rfl
  | reference name =>
      rw [Span.woven, List.filterMap_map]
      simp [Function.comp_def, placeholder?, Span.placeholder?]

/-- Whether a part brings no brace or dollar sign of its own. -/
def Span.Quiet (environment : Environment) : Span → Prop
  | char c => c ≠ '{' ∧ c ≠ '$'
  | reference name => ∀ value, environment.get? (String.ofList name) = some value →
      ∀ c ∈ value.toList, c ≠ '{' ∧ c ≠ '$'
  | placeholder _ => True

/-- Where neither a value nor a literal character is a brace or a dollar sign, the placeholders
are not disturbed. -/
theorem undisturbed_of_quiet {environment : Environment} {template : String}
    (hquiet : ∀ span ∈ spans template.toList, span.Quiet environment) :
    Undisturbed environment template := by
  have hstands : ∀ text : List Char, (∀ span ∈ spans text, span.Quiet environment) →
      standsFrom false ((spans text).flatMap (Span.woven environment)) := by
    intro text hquiet
    induction text using spans_induction with
    | nil => simp [spans, standsFrom]
    | char c rest hlead hspans ih =>
        rw [hspans, List.forall_mem_cons] at hquiet
        rw [hspans, List.flatMap_cons]
        refine standsFrom_chars_append [c] ?_ (ih hquiet.2)
        simpa [Span.Quiet] using hquiet.1
    | reference name rest hname hspans ih =>
        rw [hspans, List.forall_mem_cons] at hquiet
        rw [hspans, List.flatMap_cons, Span.woven, Span.fill]
        cases hvalue : environment.get? (String.ofList name) with
        | none => exact standsFrom_reference_append hname (ih hquiet.2)
        | some value => exact standsFrom_chars_append _ (hquiet.1 value hvalue) (ih hquiet.2)
    | placeholder name rest hname hspans ih =>
        rw [hspans, List.forall_mem_cons] at hquiet
        rw [hspans, List.flatMap_cons, Span.woven, List.singleton_append, standsFrom]
        exact ih hquiet.2
  exact hstands template.toList hquiet

end Template

end Toolbench
