import Toolbench.Invocation.Request
import Toolbench.Proofs.Template.Site
import Toolbench.Proofs.Text.PercentReading

/-!
# Encoded arguments of addresses

The text of an address is its expanded template with an encoding of its argument in the place of
each placeholder. The encoding can be read back and nothing else of the template is touched. There
is no such text exactly where a placeholder in the path has an argument that is one dot or two.
-/

namespace Toolbench

namespace Request

open Template Text.Percent

/-- A placeholder in front of any query and fragment, whose argument is a segment of dots. -/
structure RefusedAt (arguments : Arguments) (site : Site) : Prop where
  isInPath : ∀ c ∈ site.before, c ≠ '?' ∧ c ≠ '#'
  isDots : argumentText (site.argument? arguments) = ['.'] ∨
    argumentText (site.argument? arguments) = ['.', '.']

def encodedText (template : String) (arguments : Arguments) : String :=
  String.ofList (splice template.toList 0 ((sites template).map fun site =>
    (site, encode isUnreserved (argumentText (site.argument? arguments)))))

theorem guard_eq_true_iff (arguments : Arguments) (site : Site) :
    (!site.before.any endsPath && (argumentText (site.argument? arguments) = ['.'] ||
      argumentText (site.argument? arguments) = ['.', '.'])) = true ↔
        RefusedAt arguments site := by
  have hpath : site.before.any endsPath = false ↔ ∀ c ∈ site.before, c ≠ '?' ∧ c ≠ '#' := by
    simp [endsPath]
  simp only [Bool.and_eq_true, Bool.not_eq_true', hpath, Bool.or_eq_true, decide_eq_true_eq]
  exact ⟨fun ⟨hbefore, hdots⟩ => ⟨hbefore, hdots⟩, fun ⟨hbefore, hdots⟩ => ⟨hbefore, hdots⟩⟩

instance (arguments : Arguments) (site : Site) : Decidable (RefusedAt arguments site) :=
  decidable_of_iff _ (guard_eq_true_iff arguments site)

/-- What becomes of a placeholder: it is refused, or encoded. -/
theorem urlImage_eq (arguments : Arguments) (site : Site) :
    urlImage site.before (site.argument? arguments) =
      if RefusedAt arguments site then
        .error (.pathValue (String.ofList (argumentText (site.argument? arguments))))
      else .ok (encode isUnreserved (argumentText (site.argument? arguments))) :=
  ite_congr (propext (guard_eq_true_iff arguments site)) (fun _ => rfl) fun _ => rfl

theorem urlImage_eq_error_iff (arguments : Arguments) (site : Site) (fault : Fault) :
    urlImage site.before (site.argument? arguments) = .error fault ↔
      RefusedAt arguments site ∧
        fault = .pathValue (String.ofList (argumentText (site.argument? arguments))) := by
  rw [urlImage_eq]
  by_cases h : RefusedAt arguments site
  · simp [h, eq_comm]
  · simp [h]

/-- The text fails as the first placeholder that is refused. -/
theorem urlText_eq_error_iff (template : String) (arguments : Arguments) (fault : Fault) :
    urlText template arguments = .error fault ↔
      StopsAt (fun site => urlImage site.before (site.argument? arguments)) (sites template)
        fault :=
  renderWith_eq_error_iff fault

theorem exists_urlText_eq_error_iff (template : String) (arguments : Arguments) :
    (∃ fault, urlText template arguments = .error fault) ↔
      ∃ site : Site, site.StandsIn template.toList ∧ RefusedAt arguments site := by
  simp only [urlText_eq_error_iff, exists_stopsAt_iff, mem_sites_iff, urlImage_eq_error_iff,
    exists_and_left, exists_eq, and_true]

theorem urlText_eq_encodedText {template : String} {arguments : Arguments}
    (h : ∀ site : Site, site.StandsIn template.toList → ¬ RefusedAt arguments site) :
    urlText template arguments = .ok (encodedText template arguments) :=
  renderWith_eq_pure fun site hsite =>
    (urlImage_eq arguments site).trans (if_neg (h site ((mem_sites_iff template site).mp hsite)))

theorem exists_pathValue_of_urlText {template : String} {arguments : Arguments} {fault : Fault}
    (htext : urlText template arguments = .error fault) : ∃ value, fault = .pathValue value := by
  obtain ⟨-, site, -, -, -, hsite⟩ := (urlText_eq_error_iff template arguments fault).mp htext
  exact ⟨_, ((urlImage_eq_error_iff arguments site fault).mp hsite).2⟩

/-- An address is refused for a path value exactly where its text cannot be made. -/
theorem renderUrl_eq_pathValue_iff (environment : Environment) (template : String)
    (arguments : Arguments) :
    (∃ value, renderUrl environment template arguments = .error (.pathValue value)) ↔
      ∃ fault, urlText (environment.expand template) arguments = .error fault := by
  unfold renderUrl
  cases htext : urlText (environment.expand template) arguments with
  | error fault =>
      obtain ⟨value, rfl⟩ := exists_pathValue_of_urlText htext
      simp [bind, Except.bind]
  | ok text =>
      cases hparse : Url.parse text with
      | error fault => simp [bind, Except.bind, hparse]
      | ok url => simp [bind, Except.bind, hparse]

theorem renderUrl_eq_parse {environment : Environment} {template text : String}
    {arguments : Arguments}
    (htext : urlText (environment.expand template) arguments = .ok text) :
    renderUrl environment template arguments = (Url.parse text).mapError (Fault.url text) := by
  unfold renderUrl
  rw [htext]
  simp only [bind, Except.bind]
  cases Url.parse text with
  | error fault => rfl
  | ok url => rfl

/-- An address is refused before it is read exactly where a placeholder in front of any query and
fragment has an argument that is one dot or two. Else the text that is read is the expanded
template with the encodings of the arguments in the places of the placeholders. An encoding is made
of unreserved characters and triplets, stands for the bytes of the argument and for no other
argument. -/
theorem renderUrl_encoded (environment : Environment) (template : String)
    (arguments : Arguments) :
    let expanded := environment.expand template
    ((∃ value, renderUrl environment template arguments = .error (.pathValue value)) ↔
      ∃ site : Site, site.StandsIn expanded.toList ∧ RefusedAt arguments site) ∧
    ((∀ site : Site, site.StandsIn expanded.toList → ¬ RefusedAt arguments site) →
      urlText expanded arguments = .ok (encodedText expanded arguments) ∧
      renderUrl environment template arguments =
        (Url.parse (encodedText expanded arguments)).mapError
          (Fault.url (encodedText expanded arguments))) ∧
    (∀ text, Encoded (encode isUnreserved text) ∧
      decode (encode isUnreserved text) = Text.Utf8.encodeChars text) ∧
    ∀ left right, left ≠ right → encode isUnreserved left ≠ encode isUnreserved right := by
  intro expanded
  have hpercent : isUnreserved '%' = false := by
    decide
  refine ⟨?_, ?_, ?_, ?_⟩
  · rw [renderUrl_eq_pathValue_iff, exists_urlText_eq_error_iff]
  · intro hallowed
    have htext := urlText_eq_encodedText hallowed
    exact ⟨htext, renderUrl_eq_parse htext⟩
  · intro text
    exact ⟨encoded_encode text, decode_encode hpercent text⟩
  · intro left right hne hsame
    exact hne (encode_injective hpercent hsame)

/-- Two dots are a value of a query, and a percent sign in a value is encoded like any other. -/
theorem renderUrl_encoded_marks :
    renderUrl [("HOST", "[::1]")] "http://$\x7bHOST\x7d/\x7ba\x7d?q=\x7bb\x7d"
        [("a", .string "50%2F/é"), ("b", .string "..")] =
      (Url.parse "http://[::1]/50%252F%2F%C3%A9?q=..").mapError
        (Fault.url "http://[::1]/50%252F%2F%C3%A9?q=..") := by
  obtain ⟨-, hencoded, -, -⟩ := renderUrl_encoded [("HOST", "[::1]")]
    "http://$\x7bHOST\x7d/\x7ba\x7d?q=\x7bb\x7d"
    [("a", .string "50%2F/é"), ("b", .string "..")]
  have hallowed : ∀ site ∈ sites "http://[::1]/\x7ba\x7d?q=\x7bb\x7d",
      ¬ RefusedAt [("a", .string "50%2F/é"), ("b", .string "..")] site := by
    decide +kernel
  have hexpanded : Environment.expand [("HOST", "[::1]")]
      "http://$\x7bHOST\x7d/\x7ba\x7d?q=\x7bb\x7d" = "http://[::1]/\x7ba\x7d?q=\x7bb\x7d" := by
    decide +kernel
  have htext : encodedText "http://[::1]/\x7ba\x7d?q=\x7bb\x7d"
      [("a", .string "50%2F/é"), ("b", .string "..")] = "http://[::1]/50%252F%2F%C3%A9?q=.." := by
    decide +kernel
  rw [hexpanded, htext] at hencoded
  exact (hencoded fun site hsite => hallowed site ((mem_sites_iff _ site).mpr hsite)).2

end Request

end Toolbench
