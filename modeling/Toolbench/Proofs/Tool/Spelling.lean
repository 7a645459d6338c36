import Toolbench.Conversation.Dispatch
import Toolbench.Proofs.Decimal.Digits
import Toolbench.Proofs.Decimal.Nearest
import Toolbench.Proofs.Tool.Conformance

/-!
# Integers supplied as text

What counts for preparing is what supplied values are converted to.  For a parameter that is an
integer, the text of an integer is converted to that integer; for one that is any number, it is
converted to the floating-point number nearest to it, while the integer itself stays as it is.
-/

namespace Toolbench

open Json

namespace Json.Members

theorem map_fst_insert (key : String) (left right : Json) (members : Members) :
    (insert key left members).map (·.1) = (insert key right members).map (·.1) := by
  induction members with
  | nil => rfl
  | cons entry rest ih =>
      obtain ⟨k, v⟩ := entry
      by_cases hkey : k = key
      · simp [insert, hkey]
      · by_cases hlt : key < k
        · simp [insert, hkey, hlt]
        · simpa [insert, hkey, hlt] using ih

end Json.Members

namespace ParamType

/-! ## Spellings of integers -/

theorem spelledInteger?_intText {n : WideInt} (hn : n.value < 0x8000000000000000) :
    spelledInteger? (Decimal.intText n.value) = some n := by
  unfold spelledInteger?
  rw [Decimal.trimBlanks_intText, Decimal.integerText?_intText]
  simp [hn]

theorem natAbs_lt (n : WideInt) : n.value.natAbs < 2 ^ 64 := by
  have hlower := n.lower
  have hupper := n.upper
  omega

theorem spelledNumber?_intText (n : WideInt) :
    spelledNumber? (Decimal.intText n.value) = Binary64.ofInt? n.value := by
  have hreach : n.value.natAbs < 10 ^ 100 := Nat.lt_trans (natAbs_lt n) (by decide)
  unfold spelledNumber?
  rw [Decimal.trimBlanks_intText, Floating.ofText?_intText hreach]
  cases Binary64.ofInt? n.value <;> rfl

end ParamType

namespace Number

/-- A floating-point number that is an integer equals what this integer equals. -/
theorem equalValue_real_eq {x : Binary64} {n : WideInt} (hx : x.toInt? = some n.value)
    (candidate : Number) :
    candidate.equalValue (.real x) = candidate.equalValue (.integer n) := by
  rw [Bool.eq_iff_iff]
  cases candidate with
  | integer m =>
      simp only [equalValue, hx, beq_iff_eq, Option.some.injEq]
      constructor
      · intro hvalue
        exact WideInt.eq_of_value hvalue.symm
      · rintro rfl
        rfl
  | real y =>
      simp only [equalValue, beq_iff_eq]
      constructor
      · intro hsame
        simp only [Binary64.sameValue, Bool.or_eq_true, beq_iff_eq, Bool.and_eq_true] at hsame
        rcases hsame with rfl | ⟨hy, hzero⟩
        · exact hx
        · rw [Binary64.toInt?_of_isZero hy, ← hx, Binary64.toInt?_of_isZero hzero]
      · intro hy
        exact Binary64.sameValue_of_toInt? hy hx

end Number

namespace Tool

variable {tool : Tool} {members others : Members} {parameter : Parameter}

/-! ## What counts for preparing -/

theorem supplied?_insert_self {value : Json} (hvalue : value.isNull = false) :
    supplied? (members.insert parameter.name value) parameter.name = some value := by
  simp [supplied?, Members.find?_insert, hvalue]

theorem supplied?_insert_of_ne {name : String} (value : Json) (hname : parameter.name ≠ name) :
    supplied? (members.insert parameter.name value) name = supplied? members name := by
  simp [supplied?, Members.find?_insert, hname]

theorem argument?_congr
    (hsupplied : supplied? members parameter.name = supplied? others parameter.name) :
    argument? members parameter = argument? others parameter := by
  simp [argument?, hsupplied]

theorem collect_congr {parameters : List Parameter} (arguments : Arguments)
    (hsame : ∀ parameter ∈ parameters,
      argument? members parameter = argument? others parameter) :
    collect members arguments parameters = collect others arguments parameters := by
  induction parameters generalizing arguments with
  | nil => rfl
  | cons parameter rest ih =>
      have hrest := fun arguments => ih arguments fun other hother =>
        hsame other (List.mem_cons_of_mem _ hother)
      rw [collect, collect, hsame parameter List.mem_cons_self]
      cases argument? others parameter with
      | error fault => rfl
      | ok value? => cases value? <;> exact hrest _

/-- Members with the same names that give every parameter the same value are prepared alike. -/
theorem prepare_congr (hnames : members.map (·.1) = others.map (·.1))
    (hsame : ∀ parameter ∈ tool.parameters,
      argument? members parameter = argument? others parameter) :
    tool.prepare (.object members) = tool.prepare (.object others) := by
  have hunknown : tool.unknownName? members = tool.unknownName? others := by
    simp [unknownName?, hnames]
  have hcollect := collect_congr [] hsame
  simp only [prepare, prepareArguments, suppliedMembers, bind, Except.bind, hunknown, hcollect]

theorem eq_of_name {other : Parameter} (hparameter : parameter ∈ tool.parameters)
    (hother : other ∈ tool.parameters) (hname : parameter.name = other.name) :
    parameter = other := by
  have hfound := (tool.parameter?_eq_some_iff _ _).mpr ⟨hparameter, hname⟩
  rw [(tool.parameter?_eq_some_iff _ _).mpr ⟨hother, rfl⟩] at hfound
  exact (Option.some.inj hfound).symm

/-- Two values that are converted to one are prepared alike. -/
theorem prepare_insert_congr (hparameter : parameter ∈ tool.parameters) (members : Members)
    {left right result : Json} (hleft : left.isNull = false) (hright : right.isNull = false)
    (hleftResult : parameter.type.coerce? left = some result)
    (hrightResult : parameter.type.coerce? right = some result) :
    tool.prepare (.object (members.insert parameter.name left)) =
      tool.prepare (.object (members.insert parameter.name right)) := by
  refine prepare_congr (Members.map_fst_insert _ _ _ _) fun other hother => ?_
  by_cases hname : parameter.name = other.name
  · obtain rfl := eq_of_name hparameter hother hname
    simp [argument?, supplied?_insert_self hleft, supplied?_insert_self hright, hleftResult,
      hrightResult]
  · refine argument?_congr ?_
    rw [supplied?_insert_of_ne left hname, supplied?_insert_of_ne right hname]

/-! ## An integer and the floating-point number that it is -/

theorem accepts_congr (hsupplied : supplied? members parameter.name =
    supplied? others parameter.name) : parameter.Accepts members ↔ parameter.Accepts others := by
  constructor
  · rintro (⟨hvalue, hresult, hpermits⟩ | ⟨hvalue, hspared⟩)
    · exact .supplied (hsupplied ▸ hvalue) hresult hpermits
    · exact .absent (hsupplied ▸ hvalue) hspared
  · rintro (⟨hvalue, hresult, hpermits⟩ | ⟨hvalue, hspared⟩)
    · exact .supplied (hsupplied ▸ hvalue) hresult hpermits
    · exact .absent (hsupplied ▸ hvalue) hspared

/-- A supplied value is accepted if what it is converted to is permitted. -/
theorem accepts_iff_permits {value result : Json}
    (hvalue : supplied? members parameter.name = some value)
    (hresult : parameter.type.coerce? value = some result) :
    parameter.Accepts members ↔ parameter.Permits result := by
  constructor
  · rintro (⟨hother, hconverted, hpermits⟩ | ⟨hnone, -⟩)
    · obtain rfl := Option.some.inj (hvalue.symm.trans hother)
      obtain rfl := Option.some.inj (hresult.symm.trans hconverted)
      exact hpermits
    · rw [hvalue] at hnone
      cases hnone
  · exact .supplied hvalue hresult

/-- Members with a value for a parameter. -/
def supplying (members : Members) (parameter : Parameter) (value : Json) : Json :=
  .object (members.insert parameter.name value)

/-- A value whose conversion is permitted may stand in the place of an accepted one. -/
theorem Accepts.insert {left right leftResult rightResult : Json}
    (haccepts : tool.Accepts (members.insert parameter.name left))
    (hparameter : parameter ∈ tool.parameters)
    (hleft : left.isNull = false) (hright : right.isNull = false)
    (hleftResult : parameter.type.coerce? left = some leftResult)
    (hrightResult : parameter.type.coerce? right = some rightResult)
    (hpermits : parameter.Permits leftResult → parameter.Permits rightResult) :
    tool.Accepts (members.insert parameter.name right) where
  declared := by
    have hnames := Members.map_fst_insert parameter.name left right members
    have hknown := (unknownName?_eq_none_iff tool _).mpr haccepts.declared
    rw [← unknownName?_eq_none_iff]
    simpa [unknownName?, hnames] using hknown
  accepted := by
    intro other hother
    by_cases hname : parameter.name = other.name
    · obtain rfl := eq_of_name hparameter hother hname
      have hgiven := haccepts.accepted parameter hparameter
      rw [accepts_iff_permits (supplied?_insert_self hleft) hleftResult] at hgiven
      rw [accepts_iff_permits (supplied?_insert_self hright) hrightResult]
      exact hpermits hgiven
    · have hsupplied : supplied? (members.insert parameter.name left) other.name =
          supplied? (members.insert parameter.name right) other.name := by
        rw [supplied?_insert_of_ne left hname, supplied?_insert_of_ne right hname]
      exact (accepts_congr hsupplied).mp (haccepts.accepted other hother)

theorem exists_prepare_iff (members : Members) :
    (∃ arguments, tool.prepare (.object members) = .ok arguments) ↔ tool.Accepts members := by
  constructor
  · rintro ⟨arguments, hprepare⟩
    obtain ⟨supplied, hsupplies, haccepts, -⟩ :=
      (tool.prepare_eq_ok_iff_accepts _ arguments).mp hprepare
    obtain rfl : members = supplied := by
      simpa [Supplies] using hsupplies
    exact haccepts
  · intro haccepts
    exact ⟨_, (tool.prepare_eq_ok_iff_accepts _ _).mpr
      ⟨members, Or.inl rfl, haccepts, (tool.holds_iff members _).mpr rfl⟩⟩

theorem holds_of_prepare {arguments : Arguments}
    (hprepare : tool.prepare (.object members) = .ok arguments) :
    tool.Holds members arguments := by
  obtain ⟨supplied, hsupplies, -, hholds⟩ :=
    (tool.prepare_eq_ok_iff_accepts _ arguments).mp hprepare
  obtain rfl : members = supplied := by
    simpa [Supplies] using hsupplies
  exact hholds

/-- The supplied parameter gets the converted value. -/
theorem find?_of_prepare_insert (hparameter : parameter ∈ tool.parameters) {value result : Json}
    (hvalue : value.isNull = false) (hresult : parameter.type.coerce? value = some result)
    {arguments : Arguments}
    (hprepare : tool.prepare (supplying members parameter value) = .ok arguments) :
    arguments.find? parameter.name = some result := by
  rw [(holds_of_prepare hprepare).find?_eq hparameter, Parameter.result?,
    supplied?_insert_self hvalue]
  exact hresult

/-- The other parameters get the same values, whatever is supplied for the one. -/
theorem find?_congr_of_prepare_insert {left right : Json} {leftArguments rightArguments : Arguments}
    (hleft : tool.prepare (supplying members parameter left) = .ok leftArguments)
    (hright : tool.prepare (supplying members parameter right) = .ok rightArguments)
    {name : String} (hname : name ≠ parameter.name) :
    leftArguments.find? name = rightArguments.find? name := by
  have hleftHolds := holds_of_prepare hleft
  have hrightHolds := holds_of_prepare hright
  refine Option.ext fun value => ?_
  rw [← Members.mem_iff_find? hleftHolds.ordered.distinct,
    ← Members.mem_iff_find? hrightHolds.ordered.distinct, hleftHolds.mem_iff, hrightHolds.mem_iff]
  refine exists_congr fun other => and_congr_right fun hother => ?_
  refine and_congr_right fun hotherName => ?_
  have hne : parameter.name ≠ other.name := fun h => hname (hotherName ▸ h.symm)
  simp only [Parameter.result?, supplied?_insert_of_ne _ hne]

/-! ## Integers as numbers and as text -/

/-- Outcomes that are both refusals, or the same arguments. -/
def SameOutcome (left right : Except ValidationError Arguments) : Prop :=
  ∀ arguments, left = .ok arguments ↔ right = .ok arguments

def asNumber (n : WideInt) : Json :=
  .number (.integer n)

def asText (n : WideInt) : Json :=
  .string (Decimal.intText n.value)

theorem coerce?_integer_asText {n : WideInt} (hn : n.value < 0x8000000000000000) :
    ParamType.integer.coerce? (asText n) = some (asNumber n) := by
  simp [asText, asNumber, ParamType.coerce?, ParamType.spelledInteger?_intText hn]

theorem coerce?_number_asText {x : Binary64} {n : WideInt}
    (hx : Binary64.ofInt? n.value = some x) :
    ParamType.number.coerce? (asText n) = some (.number (.real x)) := by
  simp [asText, ParamType.coerce?, ParamType.spelledNumber?_intText, hx]

theorem permits_congr {x : Binary64} {n : WideInt}
    (hsame : parameter.allowed = none ∨ x.toInt? = some n.value) :
    parameter.Permits (asNumber n) ↔ parameter.Permits (.number (.real x)) := by
  rcases hsame with hnone | hx
  · simp [Parameter.Permits, hnone]
  · have hequal : ∀ candidate : Json,
        candidate.equalValue (asNumber n) = candidate.equalValue (.number (.real x)) := by
      intro candidate
      cases candidate with
      | number candidate => exact (Number.equalValue_real_eq hx candidate).symm
      | _ => rfl
    simp only [Parameter.Permits, hequal]

/-- For an integer parameter, an integer below `2 ^ 63` may as well be supplied as text. For one
that is any number, the text of an integer is as good as the floating-point number nearest to it;
where this is the integer itself or any value is allowed, the integer and its text are accepted
alike, and what is handed on differs in this number only. -/
theorem prepare_spelled (tool : Tool) (parameter : Parameter)
    (hparameter : parameter ∈ tool.parameters) (members : Members) (n : WideInt) :
    (parameter.type = .integer → n.value < 0x8000000000000000 →
      tool.prepare (supplying members parameter (asNumber n)) =
        tool.prepare (supplying members parameter (asText n)) ∧
      ∀ (ω : Type) (host : Adapter.Host ω) (setting : Adapter.Setting),
        Dispatch.execute host setting tool (supplying members parameter (asNumber n)) =
          Dispatch.execute host setting tool (supplying members parameter (asText n))) ∧
    (parameter.type = .number →
      ∃ x, Binary64.ofInt? n.value = some x ∧
        (n.value.natAbs ≤ 2 ^ 53 → x.toInt? = some n.value) ∧
        tool.prepare (supplying members parameter (asText n)) =
          tool.prepare (supplying members parameter (.number (.real x))) ∧
        (parameter.allowed = none ∨ x.toInt? = some n.value →
          ((∃ arguments, tool.prepare (supplying members parameter (asNumber n)) = .ok arguments) ↔
            ∃ arguments, tool.prepare (supplying members parameter (asText n)) = .ok arguments)) ∧
        ∀ left right,
          tool.prepare (supplying members parameter (asNumber n)) = .ok left →
          tool.prepare (supplying members parameter (asText n)) = .ok right →
            left.find? parameter.name = some (asNumber n) ∧
            right.find? parameter.name = some (.number (.real x)) ∧
            ∀ name, name ≠ parameter.name → left.find? name = right.find? name) := by
  constructor
  · intro htype hn
    have hnumber : parameter.type.coerce? (asNumber n) = some (asNumber n) := by
      rw [htype]
      rfl
    have htext : parameter.type.coerce? (asText n) = some (asNumber n) := by
      rw [htype]
      exact coerce?_integer_asText hn
    have hsame := prepare_insert_congr hparameter members rfl rfl hnumber htext
    refine ⟨hsame, fun ω host setting => ?_⟩
    simp only [Dispatch.execute, supplying, hsame]
  · intro htype
    obtain ⟨x, hx⟩ := Binary64.exists_ofInt? (ParamType.natAbs_lt n)
    have hnumber : parameter.type.coerce? (asNumber n) = some (asNumber n) := by
      rw [htype]
      rfl
    have hreal : parameter.type.coerce? (.number (.real x)) = some (.number (.real x)) := by
      rw [htype]
      rfl
    have htext : parameter.type.coerce? (asText n) = some (.number (.real x)) := by
      rw [htype]
      exact coerce?_number_asText hx
    refine ⟨x, hx, fun hn => Binary64.toInt?_ofInt? hn hx, ?_, ?_, ?_⟩
    · exact prepare_insert_congr hparameter members rfl rfl htext hreal
    · intro hsame
      have hpermits : parameter.Permits (asNumber n) ↔ parameter.Permits (.number (.real x)) :=
        permits_congr hsame
      simp only [supplying, exists_prepare_iff]
      constructor
      · exact fun haccepts => haccepts.insert hparameter rfl rfl hnumber htext hpermits.mp
      · exact fun haccepts => haccepts.insert hparameter rfl rfl htext hnumber hpermits.mpr
    · intro left right hleft hright
      exact ⟨find?_of_prepare_insert hparameter rfl hnumber hleft,
        find?_of_prepare_insert hparameter rfl htext hright,
        fun name hname => find?_congr_of_prepare_insert hleft hright hname⟩

/-- The declaration of a tool that takes any number and an integer. -/
def scaleSpec : ToolSpec where
  name := "scale"
  parameters := [
    { name := "factor", type := .number },
    { name := "steps", type := .integer }]
  handler := .shell { command := ["bc", "\x7bfactor\x7d"] }

theorem check_scaleSpec : scaleSpec.check = .ok () := by
  rw [ToolSpec.check_eq_ok_iff]
  refine ⟨by decide, rfl, ?_, by decide +kernel⟩
  rw [scaleSpec, Handler.check_shell_eq_ok_iff]
  exact ⟨"bc", _, rfl, by decide, by decide +kernel⟩

def scaleTool : Tool :=
  { scaleSpec with source := "", checked := check_scaleSpec }

def scaleFactor : Parameter :=
  { name := "factor", type := .number }

def scaleSteps : Parameter :=
  { name := "steps", type := .integer }

/-- The integer parameter gets the integer five from its text, the other one `5.0`. -/
theorem prepare_spelled_scale :
    scaleSteps ∈ scaleTool.parameters ∧ scaleFactor ∈ scaleTool.parameters ∧
      scaleTool.prepare (supplying [] scaleSteps (asNumber ⟨5, by decide, by decide⟩)) =
        scaleTool.prepare (supplying [] scaleSteps (asText ⟨5, by decide, by decide⟩)) ∧
      ((∃ arguments, scaleTool.prepare
          (supplying [] scaleFactor (asNumber ⟨5, by decide, by decide⟩)) = .ok arguments) ↔
        ∃ arguments, scaleTool.prepare
          (supplying [] scaleFactor (asText ⟨5, by decide, by decide⟩)) = .ok arguments) := by
  have hsteps : scaleSteps ∈ scaleTool.parameters := List.mem_cons_of_mem _ List.mem_cons_self
  have hfactor : scaleFactor ∈ scaleTool.parameters := List.mem_cons_self
  refine ⟨hsteps, hfactor, ?_, ?_⟩
  · exact ((prepare_spelled scaleTool scaleSteps hsteps [] _).1 rfl (by decide)).1
  · obtain ⟨x, -, -, -, haccepts, -⟩ :=
      (prepare_spelled scaleTool scaleFactor hfactor [] ⟨5, by decide, by decide⟩).2 rfl
    exact haccepts (Or.inl rfl)

/-- The text of five becomes `5.0` where any number is taken, and the text of `2 ^ 63` is refused
where an integer is. -/
theorem prepare_distinguishes_text :
    (¬ ∀ (tool : Tool) (parameter : Parameter), parameter ∈ tool.parameters →
        parameter.type = .number → ∀ (members : Members) (n : WideInt),
          SameOutcome (tool.prepare (supplying members parameter (asNumber n)))
            (tool.prepare (supplying members parameter (asText n)))) ∧
      ¬ ∀ (tool : Tool) (parameter : Parameter), parameter ∈ tool.parameters →
        parameter.type = .integer → ∀ (members : Members) (n : WideInt),
          SameOutcome (tool.prepare (supplying members parameter (asNumber n)))
            (tool.prepare (supplying members parameter (asText n))) := by
  constructor
  · intro hall
    have hsame := hall scaleTool scaleFactor List.mem_cons_self rfl [] ⟨5, by decide, by decide⟩
    have hnumber : scaleTool.prepare
        (supplying [] scaleFactor (asNumber ⟨5, by decide, by decide⟩)) =
          .ok [("factor", asNumber ⟨5, by decide, by decide⟩)] := by
      cbv
    have hfive : Binary64.ofInt? 5 = some ⟨false, 5 * 2 ^ 50, -50, by decide⟩ := by
      decide +kernel
    have htext := find?_of_prepare_insert List.mem_cons_self rfl (coerce?_number_asText hfive)
      ((hsame _).mp hnumber)
    cases htext
  · intro hall
    have hsame := hall scaleTool scaleSteps (List.mem_cons_of_mem _ List.mem_cons_self) rfl []
      ⟨2 ^ 63, by decide, by decide⟩
    have hnumber : scaleTool.prepare
        (supplying [] scaleSteps (asNumber ⟨2 ^ 63, by decide, by decide⟩)) =
          .ok [("steps", asNumber ⟨2 ^ 63, by decide, by decide⟩)] := by
      cbv
    have htext : scaleTool.prepare
        (supplying [] scaleSteps (asText ⟨2 ^ 63, by decide, by decide⟩)) =
          .error ⟨"scale", .mismatch "steps" .integer (.string "9223372036854775808")⟩ := by
      cbv
    have hequal := htext.symm.trans ((hsame _).mp hnumber)
    cases hequal

end Tool

end Toolbench
