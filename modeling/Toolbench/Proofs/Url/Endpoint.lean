import Toolbench.Config.Resolution
import Mathlib.Data.List.Infix

/-!
# Normal endpoints

The normal addresses are those that end with the path of the completions: every endpoint is made
one of them, and they are left as they are. A slash at the end of an endpoint is passed over,
unless it stands behind the path of the completions, or behind another one after the version.
-/

namespace Toolbench

namespace Endpoint

/-! ## Ends of texts -/

theorem trimSlashes_append_slash (text : List Char) :
    trimSlashes (text ++ ['/']) = trimSlashes text := by
  rw [trimSlashes, List.reverse_append, List.reverse_singleton, List.singleton_append,
    List.dropWhile_cons_of_pos (by decide)]
  rfl

theorem trimSlashes_eq_self {text : List Char} {c : Char} (hlast : text.getLast? = some c)
    (hc : c ≠ '/') : trimSlashes text = text := by
  obtain ⟨base, rfl⟩ := List.getLast?_eq_some_iff.mp hlast
  rw [trimSlashes, List.reverse_append, List.reverse_singleton, List.singleton_append,
    List.dropWhile_cons_of_neg (by simpa using hc), List.reverse_cons, List.reverse_reverse]

theorem not_suffix_of_getLast? {ending text : List Char} {c d : Char}
    (hending : ending.getLast? = some c) (htext : text.getLast? = some d) (hne : c ≠ d) :
    ¬ ending <:+ text := by
  rintro ⟨base, rfl⟩
  rw [List.getLast?_append, hending] at htext
  exact hne (Option.some.inj htext)

theorem getLast?_whole (base : List Char) : (base ++ completions).getLast? = some 's' := by
  rw [List.getLast?_append]
  rfl

theorem getLast?_version (base : List Char) : (base ++ version).getLast? = some '1' := by
  rw [List.getLast?_append]
  rfl

theorem not_whole_version (base : List Char) : ¬ completions <:+ base ++ version :=
  not_suffix_of_getLast? (getLast?_whole []) (getLast?_version base) (by decide)

theorem not_version_whole (base : List Char) : ¬ version <:+ base ++ completions :=
  not_suffix_of_getLast? (getLast?_version []) (getLast?_whole base) (by decide)

theorem not_slash_version (base : List Char) : ¬ version ++ ['/'] <:+ base ++ version :=
  not_suffix_of_getLast? List.getLast?_concat (getLast?_version base) (by decide)

theorem not_whole_slash (text : List Char) : ¬ completions <:+ text ++ ['/'] :=
  not_suffix_of_getLast? (getLast?_whole []) List.getLast?_concat (by decide)

theorem not_version_slash (text : List Char) : ¬ version <:+ text ++ ['/'] :=
  not_suffix_of_getLast? (getLast?_version []) List.getLast?_concat (by decide)

theorem suffix_slash (base : List Char) : version ++ ['/'] <:+ base ++ version ++ ['/'] := by
  rw [List.append_assoc]
  exact List.suffix_append base _

/-! ## Forms of endpoints -/

/-- An endpoint that neither is a whole address nor names the version at its end. -/
structure IsBare (text : List Char) : Prop where
  completions : ¬ completions <:+ text
  version : ¬ version <:+ text
  slash : ¬ Endpoint.version ++ ['/'] <:+ text

/-- What an endpoint is. -/
inductive Form : List Char → Prop
  | whole (base : List Char) : Form (base ++ completions)
  | version (base : List Char) : Form (base ++ version)
  | slash (base : List Char) : Form (base ++ Endpoint.version ++ ['/'])
  | bare {text : List Char} (hbare : IsBare text) : Form text

theorem form (text : List Char) : Form text := by
  by_cases hwhole : completions <:+ text
  · obtain ⟨base, rfl⟩ := hwhole
    exact .whole base
  by_cases hversion : version <:+ text
  · obtain ⟨base, rfl⟩ := hversion
    exact .version base
  by_cases hslash : version ++ ['/'] <:+ text
  · obtain ⟨base, rfl⟩ := hslash
    rw [← List.append_assoc]
    exact .slash base
  · exact .bare ⟨hwhole, hversion, hslash⟩

theorem normalizeChars_of_suffix {text : List Char} (hwhole : completions <:+ text) :
    normalizeChars text = text := by
  rw [normalizeChars, if_pos (List.isSuffixOf_iff_suffix.mpr hwhole)]

theorem normalizeChars_version (base : List Char) :
    normalizeChars (base ++ version) = base ++ version ++ completions := by
  rw [normalizeChars, if_neg (List.isSuffixOf_iff_suffix.not.mpr (not_whole_version base)),
    if_pos (List.isSuffixOf_iff_suffix.mpr (List.suffix_append base version))]

theorem normalizeChars_slash (base : List Char) :
    normalizeChars (base ++ version ++ ['/']) = base ++ version ++ completions := by
  rw [normalizeChars, if_neg (List.isSuffixOf_iff_suffix.not.mpr (not_whole_slash _)),
    if_neg (List.isSuffixOf_iff_suffix.not.mpr (not_version_slash _)),
    if_pos (List.isSuffixOf_iff_suffix.mpr (suffix_slash base)),
    List.append_assoc (base ++ version)]
  -- the slash that the text ends with is the first one of the path
  rfl

theorem normalizeChars_bare {text : List Char} (hbare : IsBare text) :
    normalizeChars text = trimSlashes text ++ version ++ completions := by
  rw [normalizeChars, if_neg (List.isSuffixOf_iff_suffix.not.mpr hbare.completions),
    if_neg (List.isSuffixOf_iff_suffix.not.mpr hbare.version),
    if_neg (List.isSuffixOf_iff_suffix.not.mpr hbare.slash)]

/-! ## Normal forms -/

/-- Every endpoint is made a whole address. -/
theorem suffix_normalizeChars (text : List Char) : completions <:+ normalizeChars text := by
  cases form text with
  | whole base =>
      rw [normalizeChars_of_suffix (List.suffix_append base completions)]
      exact List.suffix_append base completions
  | version base =>
      rw [normalizeChars_version]
      exact List.suffix_append _ _
  | slash base =>
      rw [normalizeChars_slash]
      exact List.suffix_append _ _
  | bare hbare =>
      rw [normalizeChars_bare hbare]
      exact List.suffix_append _ _

theorem normalizeChars_eq_self_iff (text : List Char) :
    normalizeChars text = text ↔ completions <:+ text := by
  constructor
  · intro hself
    rw [← hself]
    exact suffix_normalizeChars text
  · exact normalizeChars_of_suffix

/-! ## Slashes at the end -/

/-- Of what stands in front of a slash at the end only the version is told from a base. -/
theorem isBare_append_slash {text : List Char} (hversion : ¬ version <:+ text) :
    IsBare (text ++ ['/']) where
  completions := not_whole_slash text
  version := not_version_slash text
  slash := by
    rintro ⟨base, hbase⟩
    rw [← List.append_assoc] at hbase
    exact hversion ⟨base, List.append_cancel_right hbase⟩

theorem normalizeChars_append_slash {text : List Char} (hversion : ¬ version <:+ text) :
    normalizeChars (text ++ ['/']) = trimSlashes text ++ version ++ completions := by
  rw [normalizeChars_bare (isBare_append_slash hversion), trimSlashes_append_slash]

/-- Behind a whole address a slash makes it the base of another one. -/
theorem normalizeChars_whole_slash (base : List Char) :
    normalizeChars (base ++ completions ++ ['/']) =
      base ++ completions ++ version ++ completions := by
  rw [normalizeChars_append_slash (not_version_whole base),
    trimSlashes_eq_self (getLast?_whole base) (by decide)]

/-- Behind the slash after a version a second one makes both the base of another version. -/
theorem normalizeChars_version_slashes (base : List Char) :
    normalizeChars (base ++ version ++ ['/'] ++ ['/']) =
      base ++ version ++ version ++ completions := by
  rw [normalizeChars_append_slash (not_version_slash _), trimSlashes_append_slash,
    trimSlashes_eq_self (getLast?_version base) (by decide)]

/-- A slash at the end is passed over, unless the text is a whole address or ends with one behind
its version. -/
theorem normalizeChars_slash_iff (text : List Char) :
    normalizeChars (text ++ ['/']) = normalizeChars text ↔
      ¬ completions <:+ text ∧ ¬ version ++ ['/'] <:+ text := by
  cases form text with
  | whole base =>
      have hsuffix := List.suffix_append base completions
      rw [normalizeChars_whole_slash, normalizeChars_of_suffix hsuffix]
      have hlonger : base ++ completions ++ version ++ completions ≠ base ++ completions := by
        rw [List.append_assoc (base ++ completions), Ne, List.append_right_eq_self]
        decide
      exact iff_of_false hlonger fun hnone => hnone.1 hsuffix
  | version base =>
      rw [normalizeChars_slash, normalizeChars_version]
      exact iff_of_true rfl ⟨not_whole_version base, not_slash_version base⟩
  | slash base =>
      have hlonger : base ++ version ++ version ++ completions ≠
          base ++ version ++ completions := by
        rw [List.append_assoc (base ++ version)]
        exact fun hsame => absurd (List.append_cancel_left hsame) (by decide)
      rw [normalizeChars_version_slashes, normalizeChars_slash]
      exact iff_of_false hlonger fun hnone => hnone.2 (suffix_slash base)
  | bare hbare =>
      rw [normalizeChars_append_slash hbare.version, normalizeChars_bare hbare]
      exact iff_of_true rfl ⟨hbare.completions, hbare.slash⟩

/-! ## Addresses that are called -/

theorem toList_normalize (endpoint : String) :
    (normalize endpoint).toList = normalizeChars endpoint.toList :=
  String.toList_ofList

theorem normalize_eq_iff (first second : String) :
    normalize first = normalize second ↔
      normalizeChars first.toList = normalizeChars second.toList := by
  rw [← String.toList_inj, toList_normalize, toList_normalize]

theorem suffix_resolveEndpoint (file : Config.File) (vars : Environment)
    (overrides : Config.Overrides) :
    completions <:+ (Config.resolveEndpoint file vars overrides).toList := by
  unfold Config.resolveEndpoint
  split
  · rw [toList_normalize]
    exact suffix_normalizeChars _
  · exact List.isSuffixOf_iff_suffix.mp (by decide +kernel)

/-- Every endpoint has one normal form, the normal addresses are those that end with the path of
the completions, and the address that is resolved is always one of them. A slash at the end makes
no difference, unless it stands behind a whole address or behind another slash after the version:
then what is in front of it is taken for a base address, and gets its version and path again. -/
theorem normalize_append_slash (endpoint : String) :
    normalize (normalize endpoint) = normalize endpoint ∧
      (normalize endpoint = endpoint ↔ completions <:+ endpoint.toList) ∧
      (∀ file vars overrides, normalize (Config.resolveEndpoint file vars overrides) =
        Config.resolveEndpoint file vars overrides) ∧
      (normalize (endpoint ++ "/") = normalize endpoint ↔
        ¬ completions <:+ endpoint.toList ∧ ¬ version ++ ['/'] <:+ endpoint.toList) ∧
      normalize (endpoint ++ "/chat/completions" ++ "/") =
        endpoint ++ "/chat/completions" ++ "/v1/chat/completions" ∧
      normalize (endpoint ++ "/v1/" ++ "/") = endpoint ++ "/v1" ++ "/v1/chat/completions" := by
  have hpath : "/v1/chat/completions".toList = version ++ completions := by decide
  have hself : ∀ address : String, normalize address = address ↔
      completions <:+ address.toList := by
    intro address
    rw [← String.toList_inj, toList_normalize, normalizeChars_eq_self_iff]
  refine ⟨(hself _).mpr ?_, hself endpoint, fun file vars overrides => (hself _).mpr ?_, ?_, ?_, ?_⟩
  · rw [toList_normalize]
    exact suffix_normalizeChars _
  · exact suffix_resolveEndpoint file vars overrides
  · rw [normalize_eq_iff, String.toList_append]
    exact normalizeChars_slash_iff endpoint.toList
  · rw [← String.toList_inj, toList_normalize]
    simp only [String.toList_append, hpath, ← List.append_assoc]
    exact normalizeChars_whole_slash endpoint.toList
  · have hslash : "/v1/".toList = version ++ ['/'] := by decide
    rw [← String.toList_inj, toList_normalize]
    simp only [String.toList_append, hpath, hslash, ← List.append_assoc]
    exact normalizeChars_version_slashes endpoint.toList

/-- A slash behind a whole address makes it another one. -/
theorem normalize_completions_slash :
    normalize "https://api.example.com/v1/chat/completions" =
        "https://api.example.com/v1/chat/completions" ∧
      normalize ("https://api.example.com/v1/chat/completions" ++ "/") =
        "https://api.example.com/v1/chat/completions/v1/chat/completions" ∧
      ¬ ∀ endpoint : String, normalize (endpoint ++ "/") = normalize endpoint := by
  have hwhole : normalize "https://api.example.com/v1/chat/completions" =
      "https://api.example.com/v1/chat/completions" := by
    decide +kernel
  have hslash : normalize ("https://api.example.com/v1/chat/completions" ++ "/") =
      "https://api.example.com/v1/chat/completions/v1/chat/completions" := by
    decide +kernel
  refine ⟨hwhole, hslash, fun hsame => ?_⟩
  have haddress := hsame "https://api.example.com/v1/chat/completions"
  rw [hslash, hwhole] at haddress
  exact absurd haddress (by decide)

end Endpoint

end Toolbench
