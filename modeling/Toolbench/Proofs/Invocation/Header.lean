import Mathlib.Data.List.Induction
import Toolbench.Proofs.Invocation.Variables
import Toolbench.Proofs.Json.Members

/-!
# Headers of requests

The headers of a request have the names of its handler's headers in lower case, and one value for
each of them: that of the last header of the handler with the name. Only a body that is JSON adds
one more, and a value with a control character leaves no request at all.
-/

namespace Toolbench

namespace Header

/-- A name in lower case. -/
def lowered (written : String) : String :=
  String.ofList (written.toList.map Char.toLower)

def isControl (c : Char) : Bool :=
  c.toNat < 0x20 || c.toNat = 0x7F

theorem name?_eq_some_iff (written name : String) :
    name? written = some name ↔
      (isToken written = true ∧ written.length ≤ nameLimit) ∧ lowered written = name := by
  simp [name?, lowered]

/-- A text is a value exactly if it holds no control character but tabs. -/
theorem isValue_eq_true_iff (text : String) :
    isValue text = true ↔ ∀ c ∈ text.toList, isControl c = true → c = '\t' := by
  have hchar : ∀ c, isValueChar c = true ↔ (isControl c = true → c = '\t') := by
    intro c
    by_cases htab : c = '\t'
    · simp [isValueChar, htab]
    · simp only [isValueChar, isControl, htab, decide_false, Bool.false_or, Bool.and_eq_true,
        decide_eq_true_eq, bne_iff_ne, ne_eq, Bool.or_eq_true, imp_false, not_or]
      omega
  simp only [isValue, List.all_eq_true, hchar]

end Header

namespace Headers

/-! ## Collections of headers -/

/-- Names in strictly ascending order. -/
def Ascending (headers : List (String × String)) : Prop :=
  headers.Pairwise fun earlier later => earlier.1 < later.1

instance (headers : List (String × String)) : Decidable (Ascending headers) :=
  inferInstanceAs (Decidable (headers.Pairwise fun earlier later => earlier.1 < later.1))

def members (headers : Headers) : Json.Members :=
  headers.map fun header => (header.1, .string header.2)

theorem ascending_iff (headers : Headers) : Ascending headers ↔ headers.members.Ordered := by
  rw [Ascending, Json.Members.Ordered, members, List.pairwise_map]

theorem members_set (headers : Headers) (name value : String) :
    (headers.set name value).members = headers.members.insert name (.string value) := by
  induction headers with
  | nil => rfl
  | cons first rest ih =>
      obtain ⟨k, v⟩ := first
      by_cases hname : k = name
      · simp [Headers.set, members, Json.Members.insert, hname]
      · by_cases hlt : name < k
        · simp [Headers.set, members, Json.Members.insert, hname, hlt]
        · simpa [Headers.set, members, Json.Members.insert, hname, hlt] using ih

theorem mem_iff_find? {headers : Headers} (hascending : Ascending headers) (name value : String) :
    (name, value) ∈ headers ↔ headers.members.find? name = some (.string value) := by
  have hdistinct := ((ascending_iff headers).mp hascending).distinct
  rw [← Json.Members.mem_iff_find? hdistinct, members, List.mem_map]
  constructor
  · intro hmem
    exact ⟨_, hmem, rfl⟩
  · rintro ⟨header, hmem, hsame⟩
    obtain ⟨rfl, hvalue⟩ := Prod.mk.inj hsame
    obtain rfl := Json.string.inj hvalue
    exact hmem

theorem ascending_set {headers : Headers} (hascending : Ascending headers) (name value : String) :
    Ascending (headers.set name value) := by
  rw [ascending_iff, members_set]
  exact ((ascending_iff headers).mp hascending).insert name (.string value)

/-- Setting a value leaves those of other names as they are. -/
theorem mem_set_iff {headers : Headers} (hascending : Ascending headers)
    (name value : String) (header : String × String) :
    header ∈ headers.set name value ↔
      header = (name, value) ∨ header ∈ headers ∧ header.1 ≠ name := by
  obtain ⟨other, found⟩ := header
  rw [mem_iff_find? (ascending_set hascending name value), members_set, Json.Members.find?_insert,
    mem_iff_find? hascending]
  by_cases hname : name = other
  · subst hname
    simp [eq_comm]
  · simp [hname, Ne.symm hname]

theorem has_eq_true_iff (headers : Headers) (name : String) :
    headers.has name = true ↔ ∃ header ∈ headers, header.1 = name := by
  rw [has]
  induction headers with
  | nil => simp
  | cons first rest ih =>
      obtain ⟨k, v⟩ := first
      rw [List.lookup_cons]
      by_cases hname : name = k
      · simp [hname]
      · rw [beq_false_of_ne hname, ih]
        simp [Ne.symm hname]

/-! ## The last header of a name -/

/-- A header that is the last one, in the order of the names as they are written, of those that
have its name in lower case. -/
structure IsLast (headers : List (String × String)) (header : String × String) : Prop where
  mem : header ∈ headers
  last : ∀ other ∈ headers,
    Header.lowered other.1 = Header.lowered header.1 → other.1 ≤ header.1

theorem isLast_append_singleton_iff {front : List (String × String)} {final : String × String}
    (hfinal : ∀ other ∈ front, other.1 < final.1) (header : String × String) :
    IsLast (front ++ [final]) header ↔
      header = final ∨
        IsLast front header ∧ Header.lowered header.1 ≠ Header.lowered final.1 := by
  constructor
  · rintro ⟨hmem, hlast⟩
    rcases List.mem_append.mp hmem with hfront | hsingle
    · have hne : Header.lowered header.1 ≠ Header.lowered final.1 := by
        intro hsame
        have hle := hlast final (by simp) hsame.symm
        exact String.not_le.mpr (hfinal header hfront) hle
      exact .inr ⟨⟨hfront, fun other hother => hlast other (by simp [hother])⟩, hne⟩
    · exact .inl (List.mem_singleton.mp hsingle)
  · rintro (rfl | ⟨⟨hmem, hlast⟩, hne⟩)
    · refine ⟨by simp, fun other hother _ => ?_⟩
      rcases List.mem_append.mp hother with hfront | hsingle
      · exact String.not_lt.mp fun hlt =>
          String.lt_irrefl _ (String.lt_trans hlt (hfinal other hfront))
      · obtain rfl := List.mem_singleton.mp hsingle
        exact String.le_refl _
    · refine ⟨by simp [hmem], fun other hother hsame => ?_⟩
      rcases List.mem_append.mp hother with hfront | hsingle
      · exact hlast other hfront hsame
      · rw [List.mem_singleton.mp hsingle] at hsame
        exact absurd hsame.symm hne

def setAll (image : String → String) (headers : Headers)
    (entries : List (String × String)) : Headers :=
  entries.foldl (fun headers entry => headers.set (Header.lowered entry.1) (image entry.2)) headers

theorem ascending_setAll (image : String → String) {headers : Headers}
    (hascending : Ascending headers) (entries : List (String × String)) :
    Ascending (setAll image headers entries) := by
  induction entries generalizing headers with
  | nil => exact hascending
  | cons entry rest ih => exact ih (ascending_set hascending _ _)

/-- Each name in lower case has the value of its last header. -/
theorem mem_setAll_iff (image : String → String) {entries : List (String × String)}
    (hascending : Ascending entries) (header : String × String) :
    header ∈ setAll image [] entries ↔
      ∃ entry, IsLast entries entry ∧
        header = (Header.lowered entry.1, image entry.2) := by
  induction entries using List.reverseRecOn with
  | nil =>
      refine iff_of_false List.not_mem_nil ?_
      rintro ⟨entry, ⟨hmem, -⟩, -⟩
      cases hmem
  | append_singleton front final ih =>
      obtain ⟨hfront, -, hbetween⟩ := List.pairwise_append.mp hascending
      have hfinal : ∀ other ∈ front, other.1 < final.1 :=
        fun other hother => hbetween other hother final (by simp)
      have hset : setAll image [] (front ++ [final]) =
          (setAll image [] front).set (Header.lowered final.1) (image final.2) :=
        List.foldl_append
      rw [hset, mem_set_iff (ascending_setAll image List.Pairwise.nil front), ih hfront]
      simp only [isLast_append_singleton_iff hfinal]
      constructor
      · rintro (rfl | ⟨⟨entry, hlast, rfl⟩, hne⟩)
        · exact ⟨final, .inl rfl, rfl⟩
        · exact ⟨entry, .inr ⟨hlast, hne⟩, rfl⟩
      · rintro ⟨entry, rfl | ⟨hlast, hne⟩, rfl⟩
        · exact .inl rfl
        · exact .inr ⟨⟨entry, hlast, rfl⟩, hne⟩

theorem exists_isLast {entries : List (String × String)} (hascending : Ascending entries)
    {entry : String × String} (hentry : entry ∈ entries) :
    ∃ final, IsLast entries final ∧ Header.lowered final.1 = Header.lowered entry.1 := by
  induction entries using List.reverseRecOn with
  | nil => cases hentry
  | append_singleton front final ih =>
      obtain ⟨hfront, -, hbetween⟩ := List.pairwise_append.mp hascending
      have hfinal : ∀ other ∈ front, other.1 < final.1 :=
        fun other hother => hbetween other hother final (by simp)
      simp only [isLast_append_singleton_iff hfinal]
      by_cases hsame : Header.lowered final.1 = Header.lowered entry.1
      · exact ⟨final, .inl rfl, hsame⟩
      · rcases List.mem_append.mp hentry with hmem | hsingle
        · obtain ⟨found, hlast, hname⟩ := ih hfront hmem
          exact ⟨found, .inr ⟨hlast, fun heq => hsame (heq.symm.trans hname)⟩, hname⟩
        · exact absurd (congrArg (Header.lowered ·.1) (List.mem_singleton.mp hsingle)).symm hsame

end Headers

namespace Request

open Headers (Ascending IsLast setAll)

variable {environment : Environment} {handler : HttpHandler} {arguments : Arguments}

/-! ## Filling headers -/

/-- Filling succeeds if each header has a name and a value, and sets them one after the other. -/
theorem renderHeaders_eq_ok_iff (environment : Environment) (arguments : Arguments)
    (headers rendered : Headers) (entries : List (String × String)) :
    renderHeaders environment arguments headers entries = .ok rendered ↔
      (∀ entry ∈ entries, (Header.name? entry.1).isSome = true ∧
        Header.isValue (headerText environment entry.2 arguments) = true) ∧
      setAll (headerText environment · arguments) headers entries = rendered := by
  induction entries generalizing headers with
  | nil => simp [renderHeaders, setAll]
  | cons entry rest ih =>
      obtain ⟨written, template⟩ := entry
      rw [renderHeaders, List.forall_mem_cons]
      cases hname : Header.name? written with
      | none => simp
      | some name =>
          obtain ⟨-, rfl⟩ := (Header.name?_eq_some_iff _ _).mp hname
          cases hvalue : Header.isValue (headerText environment template arguments) with
          | false => simp
          | true =>
              simp only [if_true, ih, Option.isSome_some, true_and]
              rfl

/-! ## The mark of a JSON body -/

/-- Whether a request of a handler is marked as JSON: it has a body that is, and the handler has no
header of its own for that in any letter case. -/
structure IsMarked (handler : HttpHandler) (request : Request) : Prop where
  document : ∃ text value, request.body = some text ∧ Json.parse text = .ok value
  undeclared : ∀ entry ∈ handler.headers, Header.lowered entry.1 ≠ "content-type"

theorem isJson_eq_true_iff (text : String) :
    isJson text = true ↔ ∃ value, Json.parse text = .ok value := by
  unfold isJson
  cases Json.parse text <;> simp

theorem ascending_markJson {headers : Headers} (hascending : Ascending headers)
    (body : Option String) : Ascending (markJson headers body) := by
  unfold markJson
  split
  · split
    · exact Headers.ascending_set hascending _ _
    · exact hascending
  · exact hascending

theorem mem_markJson_iff {headers : Headers} (hascending : Ascending headers)
    (body : Option String) (header : String × String) :
    header ∈ markJson headers body ↔
      header ∈ headers ∨ header = ("content-type", "application/json") ∧
        (∃ text value, body = some text ∧ Json.parse text = .ok value) ∧
        ∀ other ∈ headers, other.1 ≠ "content-type" := by
  have hhas : headers.has "content-type" = false ↔
      ∀ other ∈ headers, other.1 ≠ "content-type" := by
    rw [← Bool.not_eq_true, Headers.has_eq_true_iff]
    exact ⟨fun hnone other hother hname => hnone ⟨other, hother, hname⟩,
      fun hnone ⟨other, hother, hname⟩ => hnone other hother hname⟩
  cases body with
  | none => simp [markJson]
  | some text =>
      simp only [markJson, Option.some.injEq, exists_and_left, exists_eq_left',
        ← isJson_eq_true_iff, ← hhas]
      cases hdeclared : headers.has "content-type" with
      | true => simp
      | false =>
          cases hjson : isJson text with
          | false => simp
          | true =>
              have hne : ∀ other ∈ headers, other.1 ≠ "content-type" := hhas.mp hdeclared
              simp only [Bool.not_false, Bool.and_self, if_true, Headers.mem_set_iff hascending]
              constructor
              · rintro (hnew | ⟨hold, -⟩)
                · exact .inr ⟨hnew, trivial, trivial⟩
                · exact .inl hold
              · rintro (hold | ⟨hnew, -, -⟩)
                · exact .inr ⟨hold, hne _ hold⟩
                · exact .inl hnew

/-! ## Headers of a request -/

/-- A header of a request is the last one of its handler with its name, or the mark. -/
theorem mem_headers_iff (hascending : Ascending handler.headers) {request : Request}
    (hrender : render environment handler arguments = .ok request) (header : String × String) :
    header ∈ request.headers ↔
      (∃ entry, IsLast handler.headers entry ∧
        header = (Header.lowered entry.1, headerText environment entry.2 arguments)) ∨
      header = ("content-type", "application/json") ∧ IsMarked handler request := by
  obtain ⟨-, -, -, -, headers, hheaders, hmarked⟩ := (render_eq_ok_iff _ _ _ _).mp hrender
  obtain ⟨-, rfl⟩ := (renderHeaders_eq_ok_iff _ _ _ _ _).mp hheaders
  have hset := Headers.mem_setAll_iff (headerText environment · arguments) hascending
  have hundeclared : (∀ other ∈ setAll (headerText environment · arguments) [] handler.headers,
      other.1 ≠ "content-type") ↔
        ∀ entry ∈ handler.headers, Header.lowered entry.1 ≠ "content-type" := by
    constructor
    · intro hnone entry hentry
      obtain ⟨final, hlast, hname⟩ := Headers.exists_isLast hascending hentry
      rw [← hname]
      exact hnone _ ((hset _).mpr ⟨final, hlast, rfl⟩)
    · intro hnone other hother
      obtain ⟨entry, ⟨hmem, -⟩, rfl⟩ := (hset other).mp hother
      exact hnone entry hmem
  rw [hmarked, mem_markJson_iff (Headers.ascending_setAll _ List.Pairwise.nil _), hset,
    hundeclared]
  refine or_congr_right (and_congr_right fun _ => ?_)
  exact ⟨fun ⟨hdocument, hnone⟩ => ⟨hdocument, hnone⟩,
    fun ⟨hdocument, hnone⟩ => ⟨hdocument, hnone⟩⟩

/-- The names of a request's headers do not depend on the arguments, but for the mark. -/
theorem mem_names_iff (hascending : Ascending handler.headers) {request : Request}
    (hrender : render environment handler arguments = .ok request) (name : String) :
    name ∈ request.headers.map Prod.fst ↔
      (∃ entry ∈ handler.headers, Header.lowered entry.1 = name) ∨
        name = "content-type" ∧ IsMarked handler request := by
  simp only [List.mem_map, mem_headers_iff hascending hrender]
  constructor
  · rintro ⟨header, ⟨entry, ⟨hmem, -⟩, rfl⟩ | ⟨rfl, hmarked⟩, rfl⟩
    · exact .inl ⟨entry, hmem, rfl⟩
    · exact .inr ⟨rfl, hmarked⟩
  · rintro (⟨entry, hentry, rfl⟩ | ⟨rfl, hmarked⟩)
    · obtain ⟨final, hlast, hname⟩ := Headers.exists_isLast hascending hentry
      exact ⟨_, .inl ⟨final, hlast, rfl⟩, hname⟩
    · exact ⟨_, .inr ⟨rfl, hmarked⟩, rfl⟩

theorem isValue_of_render {request : Request}
    (hrender : render environment handler arguments = .ok request)
    {entry : String × String} (hentry : entry ∈ handler.headers) :
    Header.isValue (headerText environment entry.2 arguments) = true := by
  obtain ⟨-, -, -, -, headers, hheaders, -⟩ := (render_eq_ok_iff _ _ _ _).mp hrender
  obtain ⟨hfilled, -⟩ := (renderHeaders_eq_ok_iff _ _ _ _ _).mp hheaders
  exact (hfilled entry hentry).2

/-- The headers of a request have the names of its handler's in lower case, and the mark of a JSON
body where the handler declares none. Each name has one value, which is the filled template of the
last header with the name, and no value holds a control character but tabs. If the filled template
of any header holds one, there is no request. -/
theorem render_headers (hascending : Ascending handler.headers) (environment : Environment)
    (arguments : Arguments) :
    (∀ request, render environment handler arguments = .ok request →
      request.body = handler.body.map (fun template => Body.render template arguments) ∧
      (∀ name, name ∈ request.headers.map Prod.fst ↔
        (∃ entry ∈ handler.headers, Header.lowered entry.1 = name) ∨
          name = "content-type" ∧ IsMarked handler request) ∧
      (request.headers.map Prod.fst).Nodup ∧
      (∀ header, header ∈ request.headers ↔
        (∃ entry, IsLast handler.headers entry ∧
          header = (Header.lowered entry.1, headerText environment entry.2 arguments)) ∨
        header = ("content-type", "application/json") ∧ IsMarked handler request) ∧
      ∀ header ∈ request.headers, ∀ c ∈ header.2.toList,
        Header.isControl c = true → c = '\t') ∧
    ∀ entry ∈ handler.headers,
      (∃ c ∈ (headerText environment entry.2 arguments).toList,
        Header.isControl c = true ∧ c ≠ '\t') →
        ∃ fault, render environment handler arguments = .error fault := by
  constructor
  · intro request hrender
    have hheaders := mem_headers_iff hascending hrender
    obtain ⟨-, -, -, hbody, headers, hfilled, hmarked⟩ := (render_eq_ok_iff _ _ _ _).mp hrender
    obtain ⟨-, rfl⟩ := (renderHeaders_eq_ok_iff _ _ _ _ _).mp hfilled
    have hordered : Ascending request.headers := by
      rw [hmarked]
      exact ascending_markJson (Headers.ascending_setAll _ List.Pairwise.nil _) _
    refine ⟨hbody, mem_names_iff hascending hrender, ?_, hheaders, ?_⟩
    · refine List.pairwise_map.mpr (List.Pairwise.imp ?_ hordered)
      exact fun hlt hsame => String.lt_irrefl _ (hsame ▸ hlt)
    · intro header hheader
      rw [← Header.isValue_eq_true_iff]
      rcases (hheaders header).mp hheader with ⟨entry, ⟨hmem, -⟩, rfl⟩ | ⟨rfl, -⟩
      · exact isValue_of_render hrender hmem
      · decide
  · rintro entry hentry ⟨c, hc, hcontrol, htab⟩
    cases hrender : render environment handler arguments with
    | error fault => exact ⟨fault, rfl⟩
    | ok request =>
        have hvalue := isValue_of_render hrender hentry
        rw [Header.isValue_eq_true_iff] at hvalue
        exact absurd (hvalue c hc hcontrol) htab

/-- A handler with two spellings of one name. -/
def notedHandler : HttpHandler where
  url := "http://[::1]/"
  headers := [("X-Note", "first"), ("x-note", "\x7bnote\x7d")]
  body := some "\x7b\"a\": 1\x7d"

/-- The later spelling counts, the body is marked, and a line break in a value is refused. -/
theorem render_headers_noted :
    (∃ request, render [] notedHandler [("note", .string "é")] = .ok request ∧
      ("x-note", "é") ∈ request.headers ∧
      ("content-type", "application/json") ∈ request.headers) ∧
    ∃ fault, render [] notedHandler [("note", .string "a\r\nHost: b")] = .error fault := by
  have hascending : Ascending notedHandler.headers := by
    decide +kernel
  constructor
  · obtain ⟨hok, -⟩ := render_headers hascending [] [("note", .string "é")]
    have hrendered : (render [] notedHandler [("note", .string "é")]).toOption.isSome = true := by
      decide +kernel
    cases hrender : render [] notedHandler [("note", .string "é")] with
    | error fault =>
        rw [hrender] at hrendered
        cases hrendered
    | ok request =>
        obtain ⟨hbody, -, -, hheaders, -⟩ := hok request hrender
        have hparse : isJson "\x7b\"a\": 1\x7d" = true := by
          decide +kernel
        obtain ⟨value, hvalue⟩ := (isJson_eq_true_iff _).mp hparse
        have htext : Body.render "\x7b\"a\": 1\x7d" [("note", .string "é")] =
            "\x7b\"a\": 1\x7d" := by
          decide +kernel
        refine ⟨request, rfl, (hheaders _).mpr (.inl ⟨("x-note", "\x7bnote\x7d"), ?_, ?_⟩),
          (hheaders _).mpr (.inr ⟨rfl, ?_⟩)⟩
        · exact ⟨by decide +kernel, by decide +kernel⟩
        · decide +kernel
        · exact ⟨⟨_, value, hbody.trans (congrArg some htext), hvalue⟩, by decide +kernel⟩
  · obtain ⟨-, hfails⟩ := render_headers hascending [] [("note", .string "a\r\nHost: b")]
    exact hfails ("x-note", "\x7bnote\x7d") (by decide +kernel) ⟨'\n', by decide +kernel⟩

end Request

end Toolbench
