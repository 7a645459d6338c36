import Toolbench.Invocation.Request
import Toolbench.Proofs.Environment.Expansion
import Toolbench.Proofs.Invocation.Segment
import Toolbench.Proofs.Url.Reading

/-!
# Arguments in addresses

Arguments are percent-encoded before they enter an address, so they bring no separators:
they cannot change where the address leads, nor bring a query or a fragment. Dots are not
encoded, however, and next to literal ones they can make a segment of dots.
-/

namespace Toolbench

namespace Request

open Template Text.Percent
open Url (SameFrame depth reachesPath writtenPath)

/-- The text of the argument of a name. -/
def valueOf (arguments : Arguments) (name : List Char) : List Char :=
  argumentText (arguments.find? (String.ofList name))

def filledText (template : String) (arguments : Arguments) : List Char :=
  weave (encodedValue (valueOf arguments)) (pieces template)

theorem urlImage_eq_ok {before text : List Char} {value : Option Json}
    (himage : urlImage before value = .ok text) :
    text = encode isUnreserved (argumentText value) ∧
      (before.any endsPath = false →
        argumentText value ≠ ['.'] ∧ argumentText value ≠ ['.', '.']) := by
  unfold urlImage at himage
  dsimp only at himage
  split at himage
  · cases himage
  · rename_i hguard
    refine ⟨(Except.ok.inj himage).symm, fun hbefore => ?_⟩
    simpa [hbefore] using hguard

theorem weave_of_fillPieces {arguments : Arguments} {seen text : List Char}
    {pieces : List Piece} (hfill : fillPieces urlImage arguments seen pieces = .ok text) :
    text = weave (encodedValue (valueOf arguments)) pieces := by
  induction pieces generalizing seen text with
  | nil =>
      exact (Except.ok.inj hfill).symm
  | cons piece rest ih =>
      cases piece with
      | char c =>
          obtain ⟨filled, hrest, rfl⟩ := fillPieces_char_eq_ok hfill
          rw [ih hrest, weave]
      | placeholder name =>
          obtain ⟨image, filled, himage, hrest, rfl⟩ := fillPieces_placeholder_eq_ok hfill
          rw [(urlImage_eq_ok himage).1, ih hrest, weave]
          rfl

theorem not_endsPath_spelling {name : List Char} (hname : Name.isIdentifier name) :
    (spelling (.placeholder name)).any endsPath = false := by
  rw [List.any_eq_false]
  intro c hc hends
  have hmark : c = '?' ∨ c = '#' := by
    simpa [endsPath] using hends
  have hspelling := eq_or_isPart_of_mem_spelling hname hc
  rcases hmark with rfl | rfl <;> exact absurd hspelling (by decide)

/-- No value in the path is a dot segment by itself. -/
theorem guarded_of_fillPieces {arguments : Arguments} {seen text : List Char}
    {pieces : List Piece} (hnames : ∀ name, .placeholder name ∈ pieces → Name.isIdentifier name)
    (hseen : seen.any endsPath = false)
    (hfill : fillPieces urlImage arguments seen pieces = .ok text) :
    ∀ name, .placeholder name ∈ pathPieces pieces →
      valueOf arguments name ≠ ['.'] ∧ valueOf arguments name ≠ ['.', '.'] := by
  induction pieces generalizing seen text with
  | nil =>
      simp [pathPieces]
  | cons piece rest ih =>
      have hrestNames : ∀ name, .placeholder name ∈ rest → Name.isIdentifier name :=
        fun name hname => hnames name (List.mem_cons_of_mem _ hname)
      intro name hname
      cases piece with
      | char c =>
          obtain ⟨filled, hrest, rfl⟩ := fillPieces_char_eq_ok hfill
          cases hends : Url.endsPath c with
          | true =>
              simp [pathPieces, staysOnPath, hends] at hname
          | false =>
              have hmem : .placeholder name ∈ pathPieces rest := by
                simpa [pathPieces, staysOnPath, hends] using hname
              have hc : endsPath c = false := hends
              exact ih hrestNames (by simp [hc, hseen]) hrest name hmem
      | placeholder first =>
          obtain ⟨image, filled, himage, hrest, rfl⟩ := fillPieces_placeholder_eq_ok hfill
          have hmem : name = first ∨ .placeholder name ∈ pathPieces rest := by
            simpa [pathPieces, List.takeWhile_cons, staysOnPath] using hname
          rcases hmem with rfl | hmem
          · exact (urlImage_eq_ok himage).2 (by simpa using hseen)
          · have hspelling := not_endsPath_spelling (hnames first List.mem_cons_self)
            refine ih hrestNames ?_ hrest name hmem
            rw [List.any_append, List.any_reverse, hspelling, hseen]
            rfl

/-- Whether every placeholder of a template stands behind the authority of a web address. -/
def standsBehindAuthority (template : String) : Bool :=
  (opening? (pieces template)).all reachesPath

def hasPlaceholder (pieces : List Piece) : Bool :=
  pieces.any fun piece =>
    match piece with
    | .char _ => false
    | .placeholder _ => true

/-- Whether pieces hold a dot, a percent sign, a colon or a bar of their own. -/
def hasMark (pieces : List Piece) : Bool :=
  pieces.any fun piece =>
    match piece with
    | .char c => isMark c
    | .placeholder _ => false

/-- Whether no segment of a template's path has both placeholders and marks. -/
def keepsApart (template : String) : Bool :=
  (runs (pathPieces (pieces template))).all fun run => !(hasPlaceholder run && hasMark run)

theorem settled_of_keepsApart {template : String} {value : List Char → List Char}
    (hapart : keepsApart template)
    (hvalues : ∀ name, .placeholder name ∈ pathPieces (pieces template) →
      value name ≠ ['.'] ∧ value name ≠ ['.', '.']) :
    ∀ run ∈ runs (pathPieces (pieces template)), Settled value run := by
  intro run hrun
  have happart := List.all_eq_true.mp hapart run hrun
  cases hplaceholder : hasPlaceholder run with
  | false =>
      refine Or.inl fun name hname => ?_
      exact List.any_eq_false.mp hplaceholder _ hname rfl
  | true =>
      have hmark : hasMark run = false := by
        simpa [hplaceholder] using happart
      refine Or.inr ⟨fun c hc => ?_, fun name hname => hvalues name (mem_of_mem_runs hrun hname)⟩
      simpa using List.any_eq_false.mp hmark _ hc

theorem exists_fillPieces_of_urlText {template : String} {arguments : Arguments} {text : String}
    (htext : urlText template arguments = .ok text) :
    ∃ filled, fillPieces urlImage arguments [] (pieces template) = .ok filled ∧
      text = String.ofList filled := by
  unfold urlText renderWith at htext
  cases hfill : fillPieces urlImage arguments [] (pieces template) with
  | error fault =>
      simp [hfill, bind, Except.bind] at htext
  | ok filled =>
      simp only [hfill, bind, Except.bind, pure, Except.pure, Except.ok.injEq] at htext
      exact ⟨filled, rfl, htext.symm⟩

theorem eq_filledText_of_urlText {template : String} {arguments : Arguments} {text : String}
    (htext : urlText template arguments = .ok text) :
    text = String.ofList (filledText template arguments) := by
  obtain ⟨filled, hfill, rfl⟩ := exists_fillPieces_of_urlText htext
  rw [weave_of_fillPieces hfill, filledText]

theorem guarded_of_urlText {template : String} {arguments : Arguments} {text : String}
    (htext : urlText template arguments = .ok text) :
    ∀ name, .placeholder name ∈ pathPieces (pieces template) →
      valueOf arguments name ≠ ['.'] ∧ valueOf arguments name ≠ ['.', '.'] := by
  obtain ⟨filled, hfill, -⟩ := exists_fillPieces_of_urlText htext
  exact guarded_of_fillPieces (fun name => isIdentifier_of_mem_piecesFrom false _) rfl hfill

/-- Where placeholders and marks are kept apart, arguments do not change how deep the path of
an address goes. -/
theorem depth_eq_of_keepsApart {template : String} {arguments : Arguments} {text : String}
    (hbehind : standsBehindAuthority template) (hapart : keepsApart template)
    (htext : urlText template arguments = .ok text) :
    depth (writtenPath (filledText template arguments)) =
      depth (writtenPath (sampleText template)) := by
  cases hopening : opening? (pieces template) with
  | none =>
      rw [filledText, sampleText,
        weave_congr_of_no_placeholder _ _ (not_mem_of_opening?_eq_none hopening)]
  | some before =>
      have hreaches : reachesPath before := by
        simpa [standsBehindAuthority, hopening] using hbehind
      obtain ⟨opening⟩ := Url.nonempty_opening hreaches
      obtain ⟨after, hpieces⟩ := exists_of_opening?_eq_some hopening
      obtain ⟨base, front, behind, hsplit, hfront, hread⟩ := opening.exists_parse_append
      have hsettled := settled_of_keepsApart hapart (guarded_of_urlText htext)
      have hwhole : pieces template =
          front.map .char ++ .char opening.ending :: (behind.map .char ++ after) := by
        have hchars := congrArg (List.map Piece.char) hsplit
        rw [hpieces, hchars]
        simp
      refine Url.depth_congr ?_
      rw [filledText, sampleText, hpieces, weave_chars_append, weave_chars_append,
        (hread _).2, (hread _).2, ← weave_chars_append, ← weave_chars_append,
        ← encodedValue_sampleValue]
      refine map_stepOf_writtenSegments opening.ending_ends fun hslash run hrun => ?_
      -- the runs behind the authority are runs of the whole template
      have hends := Url.not_endsPath_of_isSlash hslash
      refine hsettled run ?_
      rw [hwhole, pathPieces_append hfront hends, runs_append_slash _ hslash]
      exact List.mem_append_right _ hrun

theorem exists_urlText_of_render {environment : Environment} {handler : HttpHandler}
    {arguments : Arguments} {request : Request} (hplain : Environment.isPlain handler.url)
    (hrender : render environment handler arguments = .ok request) :
    ∃ text, urlText handler.url arguments = .ok text ∧ Url.parse text = .ok request.url := by
  simp only [render, renderUrl, Environment.expand_eq_self environment hplain, bind, Except.bind,
    throw, throwThe, MonadExceptOf.throw] at hrender
  split at hrender
  · cases hrender
  · cases htext : urlText handler.url arguments with
    | error fault => simp [htext] at hrender
    | ok text =>
        cases hparse : Url.parse text with
        | error fault => simp [htext, hparse] at hrender
        | ok url =>
            refine ⟨text, rfl, ?_⟩
            simp only [htext, hparse] at hrender
            split at hrender
            · cases hrender
            · obtain rfl := Except.ok.inj hrender
              exact hparse

theorem frame_of_parse {template : String} {arguments : Arguments} {text : String} {url : Url}
    (hbehind : standsBehindAuthority template) (htext : urlText template arguments = .ok text)
    (hparse : Url.parse text = .ok url) :
    ∃ sample, Url.parse (String.ofList (sampleText template)) = .ok sample ∧
      SameFrame url sample ∧
      (writtenPath (filledText template arguments)).length =
        (writtenPath (sampleText template)).length ∧
      (url.segmentCount = sample.segmentCount ↔
        depth (writtenPath (filledText template arguments)) =
          depth (writtenPath (sampleText template))) := by
  rw [eq_filledText_of_urlText htext] at hparse
  cases hopening : opening? (pieces template) with
  | none =>
      have hsame : filledText template arguments = sampleText template :=
        weave_congr_of_no_placeholder _ _ (not_mem_of_opening?_eq_none hopening)
      rw [hsame] at hparse ⊢
      exact ⟨url, hparse, ⟨rfl, rfl, rfl, rfl, rfl, rfl, rfl⟩, rfl, by simp⟩
  | some before =>
      have hreaches : reachesPath before := by
        simpa [standsBehindAuthority, hopening] using hbehind
      obtain ⟨opening⟩ := Url.nonempty_opening hreaches
      obtain ⟨after, hpieces⟩ := exists_of_opening?_eq_some hopening
      rw [filledText, hpieces, weave_chars_append] at hparse ⊢
      rw [sampleText, hpieces, weave_chars_append]
      have hseparators := separators_weave
        (fun name c hc => (inert_encodedValue (valueOf arguments) name c hc).1) after
      obtain ⟨sample, hsample, hframe, hlength, hurl, hother⟩ :=
        opening.parse_of_same_separators hseparators hparse
      exact ⟨sample, hsample, hframe, hlength, by rw [hurl, hother]⟩

/-- An address with its arguments filled in leads where its template leads, and has a query or
a fragment exactly where the template has one. It has as many segments as the template exactly
where its written segments go as deep; that is always so where placeholders and marks are kept
apart. -/
theorem render_url {environment : Environment} {handler : HttpHandler} {arguments : Arguments}
    {request : Request} (hplain : Environment.isPlain handler.url)
    (hbehind : standsBehindAuthority handler.url)
    (hrender : render environment handler arguments = .ok request) :
    ∃ sample, Url.parse (String.ofList (sampleText handler.url)) = .ok sample ∧
      SameFrame request.url sample ∧
      (writtenPath (filledText handler.url arguments)).length =
        (writtenPath (sampleText handler.url)).length ∧
      (request.url.segmentCount = sample.segmentCount ↔
        depth (writtenPath (filledText handler.url arguments)) =
          depth (writtenPath (sampleText handler.url))) ∧
      (keepsApart handler.url → request.url.segmentCount = sample.segmentCount) := by
  obtain ⟨text, htext, hparse⟩ := exists_urlText_of_render hplain hrender
  obtain ⟨sample, hsample, hframe, hlength, hcount⟩ := frame_of_parse hbehind htext hparse
  refine ⟨sample, hsample, hframe, hlength, hcount, fun hapart => ?_⟩
  exact hcount.mpr (depth_eq_of_keepsApart hbehind hapart htext)

/-- A value full of separators stays within its segment. -/
theorem render_url_separators :
    ∃ request sample,
      render [] { url := "http://[::1]/a/\x7bx\x7d/b" } [("x", .string "/../?#")] = .ok request ∧
      Url.parse "http://[::1]/a/x/b" = .ok sample ∧ SameFrame request.url sample ∧
      request.url.segmentCount = sample.segmentCount := by
  have hrendered : ((render [] { url := "http://[::1]/a/\x7bx\x7d/b" }
      [("x", .string "/../?#")]).toOption).isSome = true := by
    decide +kernel
  cases hrender : render [] { url := "http://[::1]/a/\x7bx\x7d/b" } [("x", .string "/../?#")] with
  | error fault =>
      rw [hrender] at hrendered
      cases hrendered
  | ok request =>
      have hsampled : sampleText "http://[::1]/a/\x7bx\x7d/b" = "http://[::1]/a/x/b".toList := by
        decide +kernel
      obtain ⟨sample, hsample, hframe, -, -, hcount⟩ :=
        render_url (by decide +kernel) (by decide +kernel) hrender
      refine ⟨request, sample, rfl, ?_, hframe, hcount (by decide +kernel)⟩
      rw [hsampled, String.ofList_toList] at hsample
      exact hsample

/-- An empty value behind two literal dots leaves a segment of dots, which climbs out of the one
before it. -/
theorem render_url_climbs :
    ¬ ∀ (environment : Environment) (handler : HttpHandler) (arguments : Arguments)
        (request : Request) (sample : Url),
      Environment.isPlain handler.url → standsBehindAuthority handler.url →
      render environment handler arguments = .ok request →
      Url.parse (String.ofList (sampleText handler.url)) = .ok sample →
        request.url.segmentCount = sample.segmentCount := by
  intro hall
  have hrendered : ((render [] { url := "http://[::1]/a/..\x7bx\x7d/b" }
      [("x", .string "")]).toOption.map fun request => request.url.segmentCount) = some 1 := by
    decide +kernel
  have hsampled : ((Url.parse (String.ofList (sampleText "http://[::1]/a/..\x7bx\x7d/b"))).toOption.map
      Url.segmentCount) = some 3 := by
    decide +kernel
  cases hrender : render [] { url := "http://[::1]/a/..\x7bx\x7d/b" } [("x", .string "")] with
  | error fault =>
      rw [hrender] at hrendered
      cases hrendered
  | ok request =>
      cases hsample : Url.parse (String.ofList (sampleText "http://[::1]/a/..\x7bx\x7d/b")) with
      | error fault =>
          rw [hsample] at hsampled
          cases hsampled
      | ok sample =>
          have hsame := hall [] _ _ request sample (by decide +kernel) (by decide +kernel) hrender
            hsample
          rw [hrender] at hrendered
          rw [hsample] at hsampled
          have hone : request.url.segmentCount = 1 := Option.some.inj hrendered
          have hthree : sample.segmentCount = 3 := Option.some.inj hsampled
          omega

end Request

end Toolbench
