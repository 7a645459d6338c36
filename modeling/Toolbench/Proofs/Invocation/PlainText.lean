import Mathlib.Data.List.TakeWhile
import Toolbench.Proofs.Invocation.Body
import Toolbench.Proofs.Template.Site

/-!
# Bodies that begin with a placeholder

The brace of a placeholder is taken for the bracket of a JSON document, unless the placeholder is
all that stands between the blanks of the template. So such a body is plain text if the placeholder
stands alone, and else only for arguments that look the same in a document and in plain text.
-/

namespace Toolbench

namespace Json

theorem escapeChar_of_isUnescaped {c : Char} (hc : isUnescaped c = true) : escapeChar c = [c] := by
  simp only [isUnescaped, Bool.and_eq_true, bne_iff_ne, ne_eq, decide_eq_true_eq] at hc
  obtain ⟨⟨hquote, hslash⟩, hcode⟩ := hc
  have hne : ∀ control : Char, control.toNat < 0x20 → c ≠ control := by
    rintro control hcontrol rfl
    omega
  simp only [escapeChar, hquote, hslash, hne '\n' (by decide), hne '\r' (by decide),
    hne '\t' (by decide), if_false]
  rw [if_neg (by omega), if_neg (by omega), if_neg (by omega)]

theorem two_le_length_escapeChar {c : Char} (hc : isUnescaped c = false) :
    2 ≤ (escapeChar c).length := by
  unfold escapeChar
  repeat' split
  case isFalse hquote hslash _ _ _ _ _ hcontrol =>
    have hplain : isUnescaped c = true := by
      simp only [isUnescaped, Bool.and_eq_true, bne_iff_ne, ne_eq, decide_eq_true_eq]
      exact ⟨⟨hquote, hslash⟩, by omega⟩
    rw [hplain] at hc
    cases hc
  all_goals
    simp

theorem length_le_escapeChars (text : List Char) : text.length ≤ (escapeChars text).length := by
  induction text with
  | nil => exact Nat.le_refl _
  | cons c rest ih =>
      have hfirst : 1 ≤ (escapeChar c).length := by
        cases hc : isUnescaped c with
        | true => simp [escapeChar_of_isUnescaped hc]
        | false => exact Nat.le_of_succ_le (two_le_length_escapeChar hc)
      rw [escapeChars] at ih
      rw [escapeChars, List.flatMap_cons, List.length_append, List.length_cons]
      omega

/-- A text is left as it is exactly if each of its characters stands for itself in a literal. -/
theorem escapeChars_eq_self_iff (text : List Char) :
    escapeChars text = text ↔ text.all isUnescaped = true := by
  induction text with
  | nil => exact iff_of_true rfl rfl
  | cons c rest ih =>
      have hcons : escapeChars (c :: rest) = escapeChar c ++ escapeChars rest := rfl
      rw [hcons, List.all_cons, Bool.and_eq_true, ← ih]
      cases hc : isUnescaped c with
      | true => simp [escapeChar_of_isUnescaped hc]
      | false =>
          -- an escape sequence is longer than its character, and nothing else gets shorter
          have hfirst := two_le_length_escapeChar hc
          have hrest := length_le_escapeChars rest
          refine iff_of_false (fun hsame => ?_) (by simp)
          have hlength := congrArg List.length hsame
          rw [List.length_append, List.length_cons] at hlength
          omega

end Json

namespace Template

/-- Images that are nowhere longer make a text that is not longer. -/
theorem length_splice_le {left right : Site → List Char} (text : List Char) (position : Nat)
    {sites : List Site} (hle : ∀ site ∈ sites, (left site).length ≤ (right site).length) :
    (splice text position (sites.map fun site => (site, left site))).length ≤
      (splice text position (sites.map fun site => (site, right site))).length := by
  induction sites generalizing position with
  | nil => exact Nat.le_refl _
  | cons site rest ih =>
      obtain ⟨hfirst, hrest⟩ := List.forall_mem_cons.mp hle
      have htail := ih site.through.length hrest
      simp only [List.map_cons, splice, List.length_append]
      omega

/-- Images that are nowhere longer make the same text only if they are the same. -/
theorem splice_eq_iff {left right : Site → List Char} (text : List Char) (position : Nat)
    {sites : List Site} (hle : ∀ site ∈ sites, (left site).length ≤ (right site).length) :
    splice text position (sites.map fun site => (site, right site)) =
        splice text position (sites.map fun site => (site, left site)) ↔
      ∀ site ∈ sites, right site = left site := by
  constructor
  · intro hsame
    induction sites generalizing position with
    | nil => exact List.forall_mem_nil _
    | cons site rest ih =>
        obtain ⟨hfirst, hrest⟩ := List.forall_mem_cons.mp hle
        have htail := length_splice_le text site.through.length hrest
        simp only [List.map_cons, splice, List.append_assoc, List.append_cancel_left_eq] at hsame
        have hlength : (right site).length = (left site).length := by
          have htotal := congrArg List.length hsame
          simp only [List.length_append] at htotal
          omega
        obtain ⟨himage, hbehind⟩ := List.append_inj hsame hlength
        exact List.forall_mem_cons.mpr ⟨himage, ih _ hrest hbehind⟩
  · intro himages
    exact congrArg (splice text position) (List.map_congr_left fun site hsite =>
      congrArg (Prod.mk site) (himages site hsite))

end Template

namespace Body

open Template (Site sites spelling pieces piecesFrom splice argumentText)

/-! ## Arguments that look the same -/

/-- Whether a document holds an argument, behind the given text, as plain text does: the characters
of a string literal stand for themselves, and elsewhere the argument is neither a text nor
nothing. -/
def isShownAlike (before : List Char) (value : Option Json) : Bool :=
  if endsInString before then (argumentText value).all Json.isUnescaped
  else
    match value with
    | none => false
    | some .null => false
    | some (.string _) => false
    | some _ => true

theorem length_argumentText_le (before : List Char) (value : Option Json) :
    (argumentText value).length ≤ (jsonImage before value).length := by
  unfold jsonImage
  split
  · exact Json.length_le_escapeChars _
  · match value with
    | none => exact Nat.zero_le _
    | some (.string text) =>
        have hescaped := Json.length_le_escapeChars text.toList
        simp only [argumentText, Template.valueText, Option.getD_some, Json.writeChars,
          Json.quoteChars, List.length_append, List.length_cons]
        omega
    | some .null => exact Nat.zero_le _
    | some (.bool _) => exact Nat.le_refl _
    | some (.number _) => exact Nat.le_refl _
    | some (.array _) => exact Nat.le_refl _
    | some (.object _) => exact Nat.le_refl _

theorem jsonImage_eq_argumentText_iff (before : List Char) (value : Option Json) :
    jsonImage before value = argumentText value ↔ isShownAlike before value = true := by
  unfold jsonImage isShownAlike
  split
  · exact Json.escapeChars_eq_self_iff _
  · match value with
    | none => exact iff_of_false (by simp [Json.writeChars, argumentText]) (by simp)
    | some .null =>
        exact iff_of_false (by simp [Json.writeChars, argumentText, Template.valueText]) (by simp)
    | some (.string text) =>
        -- the quotes alone make the literal longer than its text
        refine iff_of_false (fun hsame => ?_) (by simp)
        have hescaped := Json.length_le_escapeChars text.toList
        have hlength := congrArg List.length hsame
        simp only [argumentText, Template.valueText, Option.getD_some, Json.writeChars,
          Json.quoteChars, List.length_append, List.length_cons] at hlength
        omega
    | some (.bool _) => exact iff_of_true rfl rfl
    | some (.number _) => exact iff_of_true rfl rfl
    | some (.array _) => exact iff_of_true rfl rfl
    | some (.object _) => exact iff_of_true rfl rfl

theorem render_of_isJsonShaped {template : String} (hshaped : isJsonShaped template = true)
    (arguments : Arguments) :
    render template arguments = String.ofList (splice template.toList 0
      ((sites template).map fun site =>
        (site, jsonImage site.before (site.argument? arguments)))) := by
  rw [render, if_pos hshaped]
  exact Template.renderWith_eq_pure (m := Id) fun _ _ => rfl

theorem render_eq_plain_of_isJsonShaped_iff {template : String}
    (hshaped : isJsonShaped template = true) (arguments : Arguments) :
    render template arguments = Template.render template arguments ↔
      ∀ site ∈ sites template, isShownAlike site.before (site.argument? arguments) = true := by
  have hplain : Template.render template arguments = String.ofList (splice template.toList 0
      ((sites template).map fun site => (site, argumentText (site.argument? arguments)))) :=
    Template.renderWith_eq_pure (m := Id) fun _ _ => rfl
  simp only [← jsonImage_eq_argumentText_iff]
  rw [render_of_isJsonShaped hshaped, hplain, String.ofList_inj]
  exact Template.splice_eq_iff _ _ fun site _ => length_argumentText_le site.before _

/-! ## Templates that begin with a placeholder -/

/-- Whether the first piece that is not blank is a placeholder. -/
def opensPlaceholder (template : String) : Bool :=
  match (pieces template).dropWhile isBlankPiece with
  | .placeholder _ :: _ => true
  | _ => false

/-- Whether the template is one placeholder between blanks. -/
def isLone (template : String) : Bool :=
  match (pieces template).dropWhile isBlankPiece with
  | .placeholder _ :: rest => rest.all isBlankPiece
  | _ => false

theorem piecesFrom_eq_nil_iff (text : List Char) : piecesFrom false text = [] ↔ text = [] := by
  constructor
  · intro hnil
    rw [← Template.weave_spelling_piecesFrom false text, hnil, Template.weave]
  · rintro rfl
    rw [piecesFrom]

theorem all_isBlankPiece_piecesFrom (text : List Char) :
    (piecesFrom false text).all isBlankPiece = true ↔ ∀ c ∈ text, Text.isBlank c = true := by
  rw [List.all_eq_true, ← List.dropWhile_eq_nil_iff, dropWhile_piecesFrom, piecesFrom_eq_nil_iff,
    Text.dropBlanks, List.dropWhile_eq_nil_iff]

theorem exists_placeholder {template : String} (hopens : opensPlaceholder template = true) :
    ∃ name behind, Name.isIdentifier name = true ∧
      Text.dropBlanks template.toList = spelling (.placeholder name) ++ behind ∧
      (isLone template = true ↔ ∀ c ∈ behind, Text.isBlank c = true) := by
  unfold opensPlaceholder at hopens
  unfold isLone
  rw [pieces, dropWhile_piecesFrom] at hopens ⊢
  split at hopens
  · rename_i name rest hpieces
    have hidentifier : Name.isIdentifier name = true :=
      Template.isIdentifier_of_mem_piecesFrom false (Text.dropBlanks template.toList)
        (hpieces ▸ List.mem_cons_self)
    have hshown : Text.dropBlanks template.toList = spelling (.placeholder name) ++
        Template.weave (fun name => spelling (.placeholder name)) rest := by
      rw [← Template.weave_spelling_piecesFrom false (Text.dropBlanks template.toList), hpieces,
        Template.weave]
    have hrest : piecesFrom false (Template.weave (fun name => spelling (.placeholder name)) rest) =
        rest := by
      have hboth := hpieces
      rw [hshown, Template.piecesFrom_spelling_append hidentifier] at hboth
      exact (List.cons.inj hboth).2
    refine ⟨name, _, hidentifier, hshown, ?_⟩
    rw [← all_isBlankPiece_piecesFrom, hrest]
  · cases hopens

theorem exists_trimBlanks_append (text : List Char) :
    ∃ blanks, (∀ c ∈ blanks, Text.isBlank c = true) ∧
      Text.dropBlanks text = Text.trimBlanks text ++ blanks := by
  refine ⟨((Text.dropBlanks text).reverse.takeWhile Text.isBlank).reverse, ?_, ?_⟩
  · intro c hc
    exact List.mem_takeWhile_imp (List.mem_reverse.mp hc)
  · rw [Text.trimBlanks, ← List.reverse_append, Text.dropBlanks, Text.dropBlanks,
      List.takeWhile_append_dropWhile, List.reverse_reverse]

theorem trimBlanks_of_blanks {text front blanks : List Char} {last : Char}
    (htext : Text.dropBlanks text = front ++ [last] ++ blanks)
    (hlast : Text.isBlank last = false) (hblanks : ∀ c ∈ blanks, Text.isBlank c = true) :
    Text.trimBlanks text = front ++ [last] := by
  have hreverse : ∀ c ∈ blanks.reverse, Text.isBlank c = true :=
    fun c hc => hblanks c (List.mem_reverse.mp hc)
  rw [Text.trimBlanks, htext, List.reverse_append, List.reverse_append, List.reverse_singleton,
    Text.dropBlanks, List.dropWhile_append_of_pos hreverse, List.singleton_append,
    List.dropWhile_cons_of_neg (by simp [hlast]), List.reverse_cons, List.reverse_reverse]

/-- The trimmed template is a placeholder exactly if nothing but blanks stands behind it. -/
theorem isSome_sole?_trim_iff {template : String} {name behind : List Char}
    (hname : Name.isIdentifier name = true)
    (htext : Text.dropBlanks template.toList = spelling (.placeholder name) ++ behind) :
    (Template.sole? (Text.trim template)).isSome = true ↔
      ∀ c ∈ behind, Text.isBlank c = true := by
  rw [Option.isSome_iff_exists]
  constructor
  · rintro ⟨word, hword⟩
    obtain ⟨hidentifier, hspelled⟩ := (Template.sole?_eq_some_iff _ _).mp hword
    have htrim : Text.trimBlanks template.toList = spelling (.placeholder word.toList) :=
      String.ofList_injective hspelled
    obtain ⟨blanks, hblanks, hdrop⟩ := exists_trimBlanks_append template.toList
    -- both readings of the text have the same pieces behind the placeholder
    have hpieces := congrArg (piecesFrom false) (htext.symm.trans hdrop)
    rw [htrim, Template.piecesFrom_spelling_append hname,
      Template.piecesFrom_spelling_append hidentifier] at hpieces
    rw [← all_isBlankPiece_piecesFrom, (List.cons.inj hpieces).2, all_isBlankPiece_piecesFrom]
    exact hblanks
  · intro hblanks
    have htrim : Text.trimBlanks template.toList = spelling (.placeholder name) :=
      trimBlanks_of_blanks htext (by decide) hblanks
    refine ⟨String.ofList name, (Template.sole?_eq_some_iff _ _).mpr ?_⟩
    rw [String.toList_ofList, Text.trim, htrim]
    exact ⟨hname, rfl⟩

theorem isJsonShaped_of_opensPlaceholder {template : String}
    (hopens : opensPlaceholder template = true) :
    isJsonShaped template = !isLone template := by
  obtain ⟨name, behind, hname, htext, hlone⟩ := exists_placeholder hopens
  obtain ⟨body, -, -, htrim⟩ :=
    exists_trimBlanks (htext : _ = '\x7b' :: ((name ++ ['\x7d']) ++ behind)) (by decide)
  have hhead : (Text.trim template).toList.head? = some '\x7b' := by
    rw [Text.trim, String.toList_ofList, htrim, List.head?_cons]
  have hsole : (Template.sole? (Text.trim template)).isSome = isLone template := by
    rw [Bool.eq_iff_iff, isSome_sole?_trim_iff hname htext, hlone]
  simp only [isJsonShaped, hhead, decide_true, Bool.true_or, Bool.true_and, ← hsole,
    Option.not_isSome]

/-- A template that begins with a placeholder has one that stands outside of string literals. -/
theorem exists_site_outside {template : String} (hopens : opensPlaceholder template = true) :
    ∃ site ∈ sites template, endsInString site.before = false := by
  obtain ⟨name, behind, hname, htext, -⟩ := exists_placeholder hopens
  have hblank : ∀ c ∈ template.toList.takeWhile Text.isBlank, Text.isBlank c = true :=
    fun c hc => List.mem_takeWhile_imp hc
  have hnotMem : ∀ c, Text.isBlank c = false → c ∉ template.toList.takeWhile Text.isBlank := by
    intro c hc hmem
    rw [hblank c hmem] at hc
    cases hc
  refine ⟨⟨template.toList.takeWhile Text.isBlank, name⟩, ?_, ?_⟩
  · rw [Template.mem_sites_iff]
    refine ⟨hname, ⟨behind, ?_⟩, fun hlast => ?_⟩
    · rw [Site.through, List.append_assoc, ← htext, Text.dropBlanks,
        List.takeWhile_append_dropWhile]
    · exact hnotMem '$' (by decide) (List.mem_of_getLast? hlast)
  · rw [endsInString, foldl_step_outside (hnotMem '"' (by decide))]
    rfl

/-- A body whose template begins with a placeholder is plain text if the placeholder stands alone
between blanks. Else it is plain text for the arguments that look the same in a document at all of
their places, and so not for all arguments. -/
theorem render_eq_plain_iff {template : String} (hopens : opensPlaceholder template = true) :
    (∀ arguments, render template arguments = Template.render template arguments ↔
      isLone template = true ∨
        ∀ site ∈ sites template,
          isShownAlike site.before (site.argument? arguments) = true) ∧
    ((∀ arguments, render template arguments = Template.render template arguments) ↔
      isLone template = true) := by
  have hshaped := isJsonShaped_of_opensPlaceholder hopens
  cases hlone : isLone template with
  | true =>
      have hplain : ∀ arguments,
          render template arguments = Template.render template arguments := by
        intro arguments
        rw [render, if_neg (by simp [hshaped, hlone])]
      simp [hplain]
  | false =>
      have hiff := render_eq_plain_of_isJsonShaped_iff (hshaped.trans (by rw [hlone]; rfl))
      refine ⟨by simpa using hiff, iff_of_false (fun hall => ?_) (by simp)⟩
      -- without arguments the first placeholder becomes null
      obtain ⟨site, hsite, houtside⟩ := exists_site_outside hopens
      have halike := (hiff []).mp (hall []) site hsite
      simp [isShownAlike, houtside, Site.argument?, Json.Members.find?] at halike

/-- A placeholder between blanks is filled with the text of its argument. -/
theorem render_eq_plain_quotes :
    render " \x7btext\x7d\n" [("text", .string "say \"hi\"")] = " say \"hi\"\n" := by
  have hopens : opensPlaceholder " \x7btext\x7d\n" = true := by
    decide +kernel
  have hplain := (render_eq_plain_iff hopens).2.mpr (by decide +kernel)
  rw [hplain]
  decide +kernel

/-- Text behind a leading placeholder makes the body a document, with quotes and null. -/
theorem render_quotes_greeting :
    opensPlaceholder "\x7bgreeting\x7d, \x7bname\x7d!" = true ∧
      render "\x7bgreeting\x7d, \x7bname\x7d!" [("greeting", .string "Hello")] =
        "\"Hello\", null!" ∧
      Template.render "\x7bgreeting\x7d, \x7bname\x7d!" [("greeting", .string "Hello")] =
        "Hello, !" ∧
      ¬ ∀ (template : String) (arguments : Arguments), opensPlaceholder template = true →
        render template arguments = Template.render template arguments := by
  have hopens : opensPlaceholder "\x7bgreeting\x7d, \x7bname\x7d!" = true := by
    decide +kernel
  have hrender : render "\x7bgreeting\x7d, \x7bname\x7d!" [("greeting", .string "Hello")] =
      "\"Hello\", null!" := by
    decide +kernel
  have hplain : Template.render "\x7bgreeting\x7d, \x7bname\x7d!"
      [("greeting", .string "Hello")] = "Hello, !" := by
    decide +kernel
  refine ⟨hopens, hrender, hplain, fun hall => ?_⟩
  have hsame := hall _ [("greeting", .string "Hello")] hopens
  rw [hrender, hplain] at hsame
  revert hsame
  decide

end Body

end Toolbench
