import Toolbench.Proofs.Stopping
import Toolbench.Proofs.Template.Filling
import Toolbench.Proofs.Template.Reading
import Toolbench.Proofs.Tool.Declaration
import Toolbench.Text.Utf8

/-!
# Placeholders by their places

A placeholder is an identifier in braces that no dollar sign stands before. The scan of a template
finds all of these, in order of their places and without overlaps. Filling asks for the image of
each of them once, in this order, and changes nothing else of the template.
-/

namespace Toolbench

namespace Template

/-- A placeholder at its place in a text. -/
structure Site where
  /-- The text in front of it. -/
  before : List Char
  name : List Char
deriving DecidableEq

namespace Site

def through (site : Site) : List Char :=
  site.before ++ spelling (.placeholder site.name)

def offset (site : Site) : Nat :=
  Text.Utf8.size site.before

def argument? (site : Site) (arguments : Arguments) : Option Json :=
  arguments.find? (String.ofList site.name)

/-- A text has an identifier in braces at the place, and no dollar sign in front of it. -/
structure StandsIn (text : List Char) (site : Site) : Prop where
  isIdentifier : Name.isIdentifier site.name
  isSpelled : site.through <+: text
  isUndollared : site.before.getLast? ≠ some '$'

/-- One placeholder ends before another one begins. -/
def Precedes (earlier later : Site) : Prop :=
  earlier.through <+: later.before

end Site

/-- The placeholders among pieces that stand behind a text. -/
def sitesFrom (before : List Char) : List Piece → List Site
  | [] => []
  | .char c :: rest => sitesFrom (before ++ [c]) rest
  | .placeholder name :: rest =>
      ⟨before, name⟩ :: sitesFrom (before ++ spelling (.placeholder name)) rest

/-- The placeholders of a template. -/
def sites (template : String) : List Site :=
  sitesFrom [] (pieces template)

/-- A text from a position on, in which images take the places of its placeholders. -/
def splice (text : List Char) (position : Nat) : List (Site × List Char) → List Char
  | [] => text.drop position
  | (site, image) :: rest =>
      (text.drop position).take (site.before.length - position) ++ image ++
        splice text site.through.length rest

/-! ## Where placeholders stand -/

theorem prefix_of_mem_sitesFrom {before : List Char} {pieces : List Piece} {site : Site}
    (hsite : site ∈ sitesFrom before pieces) : before <+: site.before := by
  induction pieces generalizing before with
  | nil =>
      cases hsite
  | cons piece rest ih =>
      cases piece with
      | char c => exact (List.prefix_append before [c]).trans (ih hsite)
      | placeholder name =>
          rcases List.mem_cons.mp hsite with rfl | hrest
          · exact List.prefix_rfl
          · exact (List.prefix_append before _).trans (ih hrest)

theorem pairwise_sitesFrom (before : List Char) (pieces : List Piece) :
    (sitesFrom before pieces).Pairwise Site.Precedes := by
  induction pieces generalizing before with
  | nil =>
      exact List.Pairwise.nil
  | cons piece rest ih =>
      cases piece with
      | char c => exact ih (before ++ [c])
      | placeholder name =>
          refine List.Pairwise.cons (fun site hsite => ?_) (ih _)
          exact prefix_of_mem_sitesFrom hsite

/-- A placeholder at a place begins with a brace there. -/
theorem Site.StandsIn.head?_eq {before text : List Char} {site : Site}
    (h : site.StandsIn (before ++ text)) (hbefore : site.before = before) :
    text.head? = some '{' := by
  obtain ⟨behind, hbehind⟩ := h.isSpelled
  rw [Site.through, hbefore, List.append_assoc, List.append_cancel_left_eq] at hbehind
  rw [← hbehind]
  rfl

/-- The name of a placeholder at a place is the one that its brace opens. -/
theorem Site.StandsIn.closeName?_eq {before rest : List Char} {site : Site} {c : Char}
    (h : site.StandsIn (before ++ c :: rest)) (hbefore : site.before = before) :
    ∃ behind, closeName? rest = some (site.name, behind) := by
  obtain ⟨behind, hbehind⟩ := h.isSpelled
  rw [Site.through, hbefore, List.append_assoc, List.append_cancel_left_eq, spelling,
    List.cons_append, List.cons_append, List.append_assoc, List.cons.injEq] at hbehind
  exact ⟨behind, (closeName?_eq_some_iff _ _ _).mpr ⟨h.isIdentifier, hbehind.2.symm⟩⟩

/-- There is one placeholder at a place. -/
theorem Site.StandsIn.eq_of_before {before name rest : List Char} {site : Site}
    (hname : Name.isIdentifier name)
    (h : site.StandsIn (before ++ (spelling (.placeholder name) ++ rest)))
    (hbefore : site.before = before) : site = ⟨before, name⟩ := by
  have htext : spelling (.placeholder name) ++ rest = '{' :: (name ++ '}' :: rest) := by
    simp [spelling]
  rw [htext] at h
  obtain ⟨behind, hclose⟩ := h.closeName?_eq hbefore
  rw [(closeName?_eq_some_iff _ name rest).mpr ⟨hname, rfl⟩] at hclose
  obtain ⟨hsame, -⟩ := Prod.mk.inj (Option.some.inj hclose)
  cases site
  rw [Site.mk.injEq]
  exact ⟨hbefore, hsame.symm⟩

/-- Behind a place, a placeholder begins there or behind one more character. -/
theorem Site.StandsIn.eq_or_behind {before rest : List Char} {site : Site} {c : Char}
    (h : site.StandsIn (before ++ c :: rest)) (hfront : before <+: site.before) :
    site.before = before ∨ before ++ [c] <+: site.before := by
  obtain ⟨more, hmore⟩ := hfront
  cases more with
  | nil =>
      exact .inl (by simpa using hmore.symm)
  | cons first more =>
      have hspelled := (List.prefix_append site.before _).trans h.isSpelled
      rw [← hmore, List.prefix_append_right_inj, List.cons_prefix_cons] at hspelled
      rw [← hmore, ← hspelled.1, List.prefix_append_right_inj, List.cons_prefix_cons]
      exact .inr ⟨rfl, List.nil_prefix⟩

/-- No placeholder begins inside another one. -/
theorem Site.StandsIn.eq_or_behind_through {before name rest : List Char} {site : Site}
    (hname : Name.isIdentifier name)
    (h : site.StandsIn (before ++ (spelling (.placeholder name) ++ rest)))
    (hfront : before <+: site.before) :
    site.before = before ∨ before ++ spelling (.placeholder name) <+: site.before := by
  obtain ⟨more, hmore⟩ := hfront
  obtain ⟨behind, hbehind⟩ := h.isSpelled
  rw [Site.through, ← hmore, List.append_assoc, List.append_assoc,
    List.append_cancel_left_eq] at hbehind
  rcases List.append_eq_append_iff.mp hbehind with ⟨inside, hspelled, hrest⟩ | ⟨beyond, hmore', -⟩
  · cases more with
    | nil =>
        exact .inl (by simpa using hmore.symm)
    | cons first more =>
        cases inside with
        | nil =>
            rw [← hmore, hspelled, List.append_nil]
            exact .inr List.prefix_rfl
        | cons brace inside =>
            -- the brace of the other placeholder would stand behind the first one's own
            obtain ⟨rfl, -⟩ := List.cons.inj hrest
            rw [spelling, List.cons_append, List.cons_append, List.cons.injEq] at hspelled
            have hmem : '{' ∈ name ++ ['}'] := by
              rw [hspelled.2]
              exact List.mem_append_right _ List.mem_cons_self
            rcases List.mem_append.mp hmem with hpart | hclose
            · exact absurd (isPart_of_isIdentifier hname '{' hpart) (by decide)
            · exact absurd (List.mem_singleton.mp hclose) (by decide)
  · rw [← hmore, hmore', List.prefix_append_right_inj]
    exact .inr (List.prefix_append _ _)

/-- A text by its first piece: a character that begins no placeholder, or a placeholder. -/
theorem piecesFrom_induction {motive : Bool → List Char → Prop}
    (nil : ∀ afterDollar, motive afterDollar [])
    (char : ∀ afterDollar c rest, (c = '{' → afterDollar = false → closeName? rest = none) →
      piecesFrom afterDollar (c :: rest) = .char c :: piecesFrom (c = '$') rest →
        motive (c = '$') rest → motive afterDollar (c :: rest))
    (placeholder : ∀ name rest, Name.isIdentifier name →
      piecesFrom false (spelling (.placeholder name) ++ rest) =
          .placeholder name :: piecesFrom false rest →
        motive false rest → motive false (spelling (.placeholder name) ++ rest))
    (afterDollar : Bool) (text : List Char) : motive afterDollar text := by
  induction afterDollar, text using piecesFrom.induct with
  | case1 afterDollar => exact nil afterDollar
  | case2 afterDollar c rest hopens name behind hclose ih =>
      obtain ⟨rfl, rfl⟩ := hopens
      obtain ⟨hname, rfl⟩ := (closeName?_eq_some_iff _ _ _).mp hclose
      have hpieces := piecesFrom_spelling_append hname behind
      have htext : '{' :: (name ++ '}' :: behind) = spelling (.placeholder name) ++ behind := by
        simp [spelling]
      rw [htext]
      exact placeholder name behind hname hpieces ih
  | case3 afterDollar c rest hopens hclose ih =>
      obtain ⟨rfl, rfl⟩ := hopens
      have hpieces := (piecesFrom_char_eq_iff false '{' rest (piecesFrom false rest)).mpr
      exact char false '{' rest (fun _ _ => hclose) (hpieces ⟨by simp [hclose], rfl⟩) ih
  | case4 afterDollar c rest hopens ih =>
      have hplain : c = '{' → afterDollar = false → closeName? rest = none :=
        fun hc hdollar => absurd ⟨hc, hdollar⟩ hopens
      refine char afterDollar c rest hplain ?_ ih
      rw [piecesFrom, if_neg hopens]

theorem mem_sitesFrom_iff (afterDollar : Bool) (text before : List Char)
    (hdollar : afterDollar = decide (before.getLast? = some '$')) (site : Site) :
    site ∈ sitesFrom before (piecesFrom afterDollar text) ↔
      site.StandsIn (before ++ text) ∧ before <+: site.before := by
  induction afterDollar, text using piecesFrom_induction generalizing before with
  | nil afterDollar =>
      rw [piecesFrom, sitesFrom]
      constructor
      · intro hsite
        cases hsite
      · rintro ⟨hstands, hfront⟩
        have hthrough := hstands.isSpelled.length_le
        have hbefore := hfront.length_le
        simp only [Site.through, spelling, List.length_append, List.length_cons,
          List.length_nil] at hthrough
        omega
  | char afterDollar c rest hplain hpieces ih =>
      rw [hpieces, sitesFrom, ih (before ++ [c]) (by simp), List.append_assoc,
        List.singleton_append]
      refine and_congr_right fun hstands => ⟨?_, fun hfront => ?_⟩
      · exact (List.prefix_append before [c]).trans
      · rcases hstands.eq_or_behind hfront with hbefore | hbehind
        · -- a brace that begins a name and has no dollar sign in front of it is no plain one
          have hc : c = '{' := Option.some.inj (hstands.head?_eq hbefore)
          have hundollared : afterDollar = false := by
            rw [hdollar, ← hbefore]
            exact decide_eq_false hstands.isUndollared
          obtain ⟨behind, hclose⟩ := hstands.closeName?_eq hbefore
          rw [hplain hc hundollared] at hclose
          cases hclose
        · exact hbehind
  | placeholder name rest hname hpieces ih =>
      have hundollared : before.getLast? ≠ some '$' := of_decide_eq_false hdollar.symm
      have hlast : (before ++ spelling (.placeholder name)).getLast? = some '}' := by
        rw [spelling, ← List.append_assoc, List.getLast?_concat]
      rw [hpieces, sitesFrom, List.mem_cons, ih _ (by rw [hlast]; decide), List.append_assoc]
      constructor
      · rintro (rfl | ⟨hstands, hfront⟩)
        · refine ⟨⟨hname, ?_, hundollared⟩, List.prefix_rfl⟩
          rw [Site.through, ← List.append_assoc]
          exact List.prefix_append _ _
        · exact ⟨hstands, (List.prefix_append before _).trans hfront⟩
      · rintro ⟨hstands, hfront⟩
        rcases hstands.eq_or_behind_through hname hfront with hbefore | hthrough
        · exact .inl (hstands.eq_of_before hname hbefore)
        · exact .inr ⟨hstands, hthrough⟩

/-- The scan finds the placeholders that stand in the template, and no others. -/
theorem mem_sites_iff (template : String) (site : Site) :
    site ∈ sites template ↔ site.StandsIn template.toList := by
  rw [sites, pieces, mem_sitesFrom_iff false template.toList [] rfl]
  exact and_iff_left List.nil_prefix

-- the second dollar sign makes a reference of the first name, and é takes two bytes
example : (sites "$$\x7ba\x7dé\x7bb\x7d\x7bc").map Site.offset = [7] := by
  decide +kernel

theorem filterMap_placeholder?_eq (before : List Char) (pieces : List Piece) :
    pieces.filterMap placeholder? =
      (sitesFrom before pieces).map fun site => String.ofList site.name := by
  induction pieces generalizing before with
  | nil =>
      rfl
  | cons piece rest ih =>
      cases piece with
      | char c => rw [sitesFrom, ← ih]; rfl
      | placeholder name =>
          rw [sitesFrom, List.map_cons, ← ih]
          rfl

theorem placeholders_eq_map_sites (template : String) :
    placeholders template = (sites template).map fun site => String.ofList site.name :=
  filterMap_placeholder?_eq [] (pieces template)

/-! ## Images in their places -/

/-- A character that stands before all images stays where it is. -/
theorem splice_eq_cons {text : List Char} {position : Nat} {c : Char}
    (hc : text[position]? = some c) {images : List (Site × List Char)}
    (hbehind : ∀ image ∈ images, position < image.1.before.length) :
    splice text position images = c :: splice text (position + 1) images := by
  obtain ⟨hbound, hget⟩ := List.getElem?_eq_some_iff.mp hc
  have hdrop : text.drop position = c :: text.drop (position + 1) := by
    rw [List.drop_eq_getElem_cons hbound, hget]
  cases images with
  | nil => exact hdrop
  | cons image rest =>
      have hposition := hbehind image List.mem_cons_self
      have hlength : image.1.before.length - position =
          image.1.before.length - (position + 1) + 1 := by
        omega
      rw [splice, splice, hdrop, hlength, List.take_succ_cons, List.cons_append, List.cons_append]

theorem splice_char_cons (before : List Char) (c : Char) (rest : List Piece)
    (images : List (List Char)) :
    splice (before ++ spelled (.char c :: rest)) before.length
        ((sitesFrom (before ++ [c]) rest).zip images) =
      c :: splice (before ++ spelled (.char c :: rest)) (before ++ [c]).length
        ((sitesFrom (before ++ [c]) rest).zip images) := by
  have hc : (before ++ spelled (.char c :: rest))[before.length]? = some c := by
    simp [spelled, weave]
  rw [List.length_append, List.length_singleton]
  refine splice_eq_cons hc fun image himage => ?_
  have hsite := (List.of_mem_zip (a := image.1) (b := image.2) himage).1
  have hlength := (prefix_of_mem_sitesFrom hsite).length_le
  rw [List.length_append, List.length_singleton] at hlength
  exact hlength

theorem splice_cons_self (text : List Char) (site : Site) (image : List Char)
    (rest : List (Site × List Char)) :
    splice text site.before.length ((site, image) :: rest) =
      image ++ splice text site.through.length rest := by
  rw [splice, Nat.sub_self, List.take_zero, List.nil_append]

section Filling

variable {m : Type → Type} [Monad m] [LawfulMonad m]
  (encode : List Char → Option Json → m (List Char)) (arguments : Arguments)

/-- Filling pieces asks for the images of their placeholders in order, and splices them in. -/
theorem fillPieces_eq_mapM (before : List Char) (pieces : List Piece) :
    fillPieces encode arguments before.reverse pieces =
      (fun images => splice (before ++ spelled pieces) before.length
          ((sitesFrom before pieces).zip images)) <$>
        (sitesFrom before pieces).mapM fun site =>
          encode site.before (site.argument? arguments) := by
  induction pieces generalizing before with
  | nil =>
      simp [fillPieces, sitesFrom, splice, spelled, weave]
  | cons piece rest ih =>
      cases piece with
      | char c =>
          have hrest := ih (before ++ [c])
          have htext : before ++ [c] ++ spelled rest = before ++ spelled (.char c :: rest) := by
            simp [spelled, weave]
          rw [List.reverse_append, List.reverse_singleton, List.singleton_append, htext] at hrest
          rw [fillPieces, hrest, bind_pure_comp, Functor.map_map, sitesFrom]
          simp only [splice_char_cons]
      | placeholder name =>
          have hrest := ih (before ++ spelling (.placeholder name))
          have htext : before ++ spelling (.placeholder name) ++ spelled rest =
              before ++ spelled (.placeholder name :: rest) := by
            simp [spelled, weave]
          rw [List.reverse_append, htext] at hrest
          rw [fillPieces, List.reverse_reverse, sitesFrom, List.mapM_cons, map_bind]
          refine bind_congr fun image => ?_
          rw [hrest, bind_pure_comp, Functor.map_map, map_bind, ← bind_pure_comp]
          refine bind_congr fun images => ?_
          rw [map_pure, List.zip_cons_cons]
          have hsplice := splice_cons_self (before ++ spelled (.placeholder name :: rest))
            ⟨before, name⟩ image
            ((sitesFrom (before ++ spelling (.placeholder name)) rest).zip images)
          rw [hsplice]
          rfl

/-- Filling a template asks for the images of its placeholders in order, and splices them in. -/
theorem renderWith_eq_mapM (template : String) :
    renderWith encode template arguments =
      (fun images => String.ofList (splice template.toList 0 ((sites template).zip images))) <$>
        (sites template).mapM fun site => encode site.before (site.argument? arguments) := by
  have hfill := fillPieces_eq_mapM encode arguments [] (pieces template)
  rw [List.reverse_nil, List.nil_append, spelled, weave_spelling_pieces] at hfill
  rw [renderWith, hfill, bind_pure_comp, Functor.map_map]
  rfl

end Filling

section Faults

variable {ε : Type} {encode : List Char → Option Json → Except ε (List Char)}
  {arguments : Arguments} {template : String}

/-- Filling fails where the first of the encodings fails. -/
theorem renderWith_eq_error_iff (fault : ε) :
    renderWith encode template arguments = .error fault ↔
      StopsAt (fun site => encode site.before (site.argument? arguments)) (sites template)
        fault := by
  rw [renderWith_eq_mapM, ← mapM_eq_error_iff]
  cases (sites template).mapM fun site => encode site.before (site.argument? arguments) <;>
    simp [Functor.map, Except.map]

/-- Filling with an encoding that fails nowhere puts what it gives in the places of the
placeholders. -/
theorem renderWith_eq_pure {m : Type → Type} [Monad m] [LawfulMonad m]
    {encode : List Char → Option Json → m (List Char)} {image : Site → List Char}
    (himage : ∀ site ∈ sites template,
      encode site.before (site.argument? arguments) = pure (image site)) :
    renderWith encode template arguments =
      pure (String.ofList (splice template.toList 0
        ((sites template).map fun site => (site, image site)))) := by
  rw [renderWith_eq_mapM, mapM_eq_pure himage, map_pure, List.map_prod_left_eq_zip]

end Faults

/-! ## What the functions on templates agree on -/

theorem sole?_eq_some_iff_toList (template name : String) :
    sole? template = some name ↔
      Name.isIdentifier name.toList ∧ template.toList = spelling (.placeholder name.toList) := by
  rw [sole?_eq_some_iff, ← String.toList_inj, String.toList_ofList]

/-- The name of a parameter makes a placeholder wherever no dollar sign stands. -/
theorem standsIn_of_mem_parameters (tool : Tool) {parameter : Parameter}
    (hparameter : parameter ∈ tool.parameters) {before : List Char}
    (hbefore : before.getLast? ≠ some '$') (behind : List Char) :
    Site.StandsIn (before ++ spelling (.placeholder parameter.name.toList) ++ behind)
      ⟨before, parameter.name.toList⟩ :=
  ⟨tool.isIdentifier_name hparameter, List.prefix_append _ behind, hbefore⟩

/-- The placeholders of a template are the identifiers in braces behind no dollar sign. They do not
overlap, and their names are listed in order of their places. A template is one placeholder exactly
if it is spelled as one. Filling asks for one image of each placeholder in order, with its place
and the argument of its name, stops where the first of them fails, and else puts the images in the
places of the placeholders and leaves every other character. Plain filling does so with the plain
texts of the arguments. Each parameter of a tool can be named in this way. -/
theorem sites_agree (template : String) :
    (∀ site, site ∈ sites template ↔ site.StandsIn template.toList) ∧
    (sites template).Pairwise Site.Precedes ∧
    placeholders template = ((sites template).map fun site => String.ofList site.name) ∧
    (∀ name, sole? template = some name ↔
      Name.isIdentifier name.toList ∧
        template.toList = spelling (.placeholder name.toList)) ∧
    (∀ (m : Type → Type) [Monad m] [LawfulMonad m]
      (encode : List Char → Nat → Option Json → m (List Char)) (arguments : Arguments),
      renderWith (fun before => encode before (Text.Utf8.size before)) template arguments =
        (fun images => String.ofList (splice template.toList 0 ((sites template).zip images))) <$>
          (sites template).mapM fun site =>
            encode site.before site.offset (site.argument? arguments)) ∧
    (∀ (ε : Type) (encode : List Char → Nat → Option Json → Except ε (List Char))
      (arguments : Arguments) (fault : ε),
      renderWith (fun before => encode before (Text.Utf8.size before)) template arguments =
          .error fault ↔
        StopsAt (fun site => encode site.before site.offset (site.argument? arguments))
          (sites template) fault) ∧
    (∀ arguments, render template arguments =
      String.ofList (splice template.toList 0
        ((sites template).map fun site => (site, argumentText (site.argument? arguments))))) ∧
    ∀ (tool : Tool) (parameter : Parameter), parameter ∈ tool.parameters →
      sole? (String.ofList (spelling (.placeholder parameter.name.toList))) =
          some parameter.name ∧
      ∀ before behind : List Char, before.getLast? ≠ some '$' →
        ⟨before, parameter.name.toList⟩ ∈ sites (String.ofList
          (before ++ spelling (.placeholder parameter.name.toList) ++ behind)) := by
  refine ⟨mem_sites_iff template, pairwise_sitesFrom [] _, placeholders_eq_map_sites template,
    sole?_eq_some_iff_toList template, ?_, ?_, ?_, ?_⟩
  · intro m _ _ encode arguments
    exact renderWith_eq_mapM _ arguments template
  · intro ε encode arguments fault
    exact renderWith_eq_error_iff fault
  · intro arguments
    exact renderWith_eq_pure (m := Id) fun _ _ => rfl
  · intro tool parameter hparameter
    have hname := tool.isIdentifier_name hparameter
    refine ⟨?_, fun before behind hbefore => ?_⟩
    · exact (sole?_eq_some_iff _ parameter.name).mpr ⟨hname, rfl⟩
    · rw [mem_sites_iff, String.toList_ofList]
      exact standsIn_of_mem_parameters tool hparameter hbefore behind

end Template

end Toolbench
