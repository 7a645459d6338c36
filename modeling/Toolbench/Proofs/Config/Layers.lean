import Toolbench.Config.Resolution
import Toolbench.Proofs.Decimal.Digits
import Toolbench.Proofs.Environment.Expansion

/-!
# Layers of a configuration

Each setting is decided by the highest layer that supplies it, on its own: what lower layers say,
and what is said of other settings, does not matter. Settings can be resolved unless what decides
the number of turns or the policy is of no use. Of the login the directory of scripts alone depends
on more than the layers: on the home directory, and on the variables that a file refers to.
-/

namespace Toolbench

namespace Environment

/-- The variables with the given names, with the given values. -/
def among (names : List String) (texts : String → Option String) : Environment :=
  names.filterMap fun name => (texts name).map (name, ·)

theorem lookup_among (names : List String) (texts : String → Option String) (name : String) :
    (among names texts).lookup name = if name ∈ names then texts name else none := by
  induction names with
  | nil => rfl
  | cons first rest ih =>
      have hcons : among (first :: rest) texts =
          ((texts first).map (first, ·)).toList ++ among rest texts := by
        cases htext : texts first <;> simp [among, htext]
      rw [hcons, List.lookup_append, ih]
      by_cases hfirst : name = first
      · subst hfirst
        cases htext : texts name <;> simp
      · have hother : ((texts first).map (first, ·)).toList.lookup name = none := by
          cases texts first with
          | none => rfl
          | some text => simp [List.lookup_cons, beq_false_of_ne hfirst]
        simp [hother, hfirst]

end Environment

namespace Config

/-! ## Layers -/

/-- What can supply a setting. -/
inductive Layer where
  | commandLine
  | environment
  | file

namespace Layer

/-- The layers above a layer. -/
def above : Layer → List Layer
  | commandLine => []
  | environment => [commandLine]
  | file => [commandLine, environment]

variable {α : Type} {supplied other : Layer → Option α}

/-- A layer decides with an entry if it supplies it and no layer above it supplies any. -/
structure Decides (supplied : Layer → Option α) (layer : Layer) (entry : α) : Prop where
  supplies : supplied layer = some entry
  highest : ∀ higher ∈ layer.above, supplied higher = none

/-- Layers that say the same, as far as none above them says anything. -/
def Alike (supplied other : Layer → Option α) : Prop :=
  ∀ layer, (∀ higher ∈ layer.above, supplied higher = none) → other layer = supplied layer

/-- The entry of the highest layer that supplies one. -/
def deciding (supplied : Layer → Option α) : Option α :=
  supplied commandLine <|> supplied environment <|> supplied file

theorem deciding_eq_some_iff (entry : α) :
    deciding supplied = some entry ↔ ∃ layer, Decides supplied layer entry := by
  constructor
  · intro hdeciding
    unfold deciding at hdeciding
    cases hline : supplied commandLine with
    | some found =>
        rw [hline] at hdeciding
        obtain rfl := Option.some.inj hdeciding
        exact ⟨commandLine, hline, fun _ hnone => by cases hnone⟩
    | none =>
        cases henvironment : supplied environment with
        | some found =>
            rw [hline, henvironment] at hdeciding
            obtain rfl := Option.some.inj hdeciding
            exact ⟨environment, henvironment, by simpa [above] using hline⟩
        | none =>
            rw [hline, henvironment] at hdeciding
            exact ⟨file, hdeciding, by simpa [above] using ⟨hline, henvironment⟩⟩
  · rintro ⟨layer, hsupplies, hhighest⟩
    unfold deciding
    cases layer with
    | commandLine =>
        rw [hsupplies]
        rfl
    | environment =>
        rw [hhighest commandLine (by simp [above]), hsupplies]
        rfl
    | file =>
        rw [hhighest commandLine (by simp [above]), hhighest environment (by simp [above]),
          hsupplies]
        rfl

theorem deciding_eq_none (hnone : ∀ layer, supplied layer = none) : deciding supplied = none := by
  rw [deciding, hnone, hnone, hnone]
  rfl

theorem Alike.deciding_eq (halike : Alike supplied other) : deciding other = deciding supplied := by
  have hline : other commandLine = supplied commandLine :=
    halike commandLine fun _ hnone => by cases hnone
  unfold deciding
  rw [hline]
  cases hcommand : supplied commandLine with
  | some entry => rfl
  | none =>
      have henvironment : other environment = supplied environment :=
        halike environment (by simpa [above] using hcommand)
      rw [henvironment]
      cases hvariable : supplied environment with
      | some entry => rfl
      | none => rw [halike file (by simpa [above] using ⟨hcommand, hvariable⟩)]

end Layer

/-! ## Counts -/

/-- Digits of a number below `2 ^ 64`. -/
structure IsCount (digits : List Char) (n : Nat) : Prop where
  nonempty : digits ≠ []
  digit : ∀ c ∈ digits, c.isDigit = true
  value : Nat.ofDigitChars 10 digits 0 = n
  bound : n < 2 ^ 64

/-- A text that spells a count: digits, which a plus may precede, between blanks. -/
def Spells (text : String) (n : Nat) : Prop :=
  ∃ sign digits, Text.trimBlanks text.toList = sign ++ digits ∧ (sign = [] ∨ sign = ['+']) ∧
    IsCount digits n

theorem word64?_eq_some_iff (text : List Char) (n : Nat) :
    word64? text = some n ↔ IsCount (if text.head? = some '+' then text.tail else text) n := by
  unfold word64?
  generalize (if text.head? = some '+' then text.tail else text) = digits
  change (if (digits.isEmpty || !digits.all Char.isDigit) = true then none
    else if Floating.digitsValue digits < 2 ^ 64 then some (Floating.digitsValue digits)
    else none) = some n ↔ _
  rw [Floating.digitsValue_eq]
  have hdigits : (digits.isEmpty || !digits.all Char.isDigit) = false ↔
      digits ≠ [] ∧ ∀ c ∈ digits, c.isDigit = true := by
    simp
  cases hplain : digits.isEmpty || !digits.all Char.isDigit with
  | true =>
      refine iff_of_false (by rintro ⟨⟩) fun hcount => ?_
      rw [hdigits.mpr ⟨hcount.nonempty, hcount.digit⟩] at hplain
      cases hplain
  | false =>
      obtain ⟨hnonempty, hdigit⟩ := hdigits.mp hplain
      change (if Nat.ofDigitChars 10 digits 0 < 2 ^ 64 then some (Nat.ofDigitChars 10 digits 0)
        else none) = some n ↔ _
      rw [Option.ite_none_right_eq_some, Option.some.injEq]
      constructor
      · rintro ⟨hbound, rfl⟩
        exact ⟨hnonempty, hdigit, rfl, hbound⟩
      · rintro ⟨-, -, rfl, hbound⟩
        exact ⟨hbound, rfl⟩

theorem word64?_trimBlanks_eq_some_iff (text : String) (n : Nat) :
    word64? (Text.trimBlanks text.toList) = some n ↔ Spells text n := by
  rw [word64?_eq_some_iff]
  unfold Spells
  generalize Text.trimBlanks text.toList = trimmed
  constructor
  · intro hcount
    by_cases hsign : trimmed.head? = some '+'
    · obtain ⟨digits, rfl⟩ := List.head?_eq_some_iff.mp hsign
      exact ⟨['+'], digits, rfl, .inr rfl, hcount⟩
    · rw [if_neg hsign] at hcount
      exact ⟨[], trimmed, rfl, .inl rfl, hcount⟩
  · rintro ⟨sign, digits, rfl, rfl | rfl, hcount⟩
    · have hsign : digits.head? ≠ some '+' := by
        intro hplus
        have hdigit := hcount.digit '+' (List.mem_of_head? hplus)
        cases hdigit
      rwa [List.nil_append, if_neg hsign]
    · exact hcount

theorem Spells.unique {text : String} {m n : Nat} (hm : Spells text m) (hn : Spells text n) :
    m = n := by
  rw [← word64?_trimBlanks_eq_some_iff] at hm hn
  exact Option.some.inj (hm.symm.trans hn)

/-! ## Settings -/

/-- The settings that more than one layer can supply. -/
inductive Setting where
  | cluster
  | endpoint
  | model
  | maxTurns
  | toolsDir
  | duplicatePolicy

/-- A value, or a text that has yet to be read as one. -/
inductive Written (α : Type) where
  | text (text : String)
  | value (value : α)

/-- What settings are resolved from. -/
structure Sources where
  file : File
  vars : Environment
  overrides : Overrides

namespace Setting

/-- What a layer says of a setting. -/
def Entry : Setting → Type
  | maxTurns => Written Nat
  | duplicatePolicy => Written DuplicatePolicy
  | _ => String

/-- What a setting is in the end. -/
def Value : Setting → Type
  | cluster => Option String
  | maxTurns => Nat
  | duplicatePolicy => DuplicatePolicy
  | _ => String

/-- The variable for a setting. -/
def variableName : Setting → String
  | cluster => "TOOLSMITH_CLUSTER"
  | endpoint => "AI_API_ENDPOINT"
  | model => "AI_MODEL"
  | maxTurns => "TOOLSMITH_MAX_TURNS"
  | toolsDir => "TOOLSMITH_TOOLS_DIR"
  | duplicatePolicy => "TOOLSMITH_DUPLICATE_POLICY"

def variableNames : List String :=
  [cluster, endpoint, model, maxTurns, toolsDir, duplicatePolicy].map variableName

/-- What the command line says of a setting. -/
def overriding (overrides : Overrides) : (setting : Setting) → Option setting.Entry
  | cluster => overrides.cluster
  | endpoint => overrides.endpoint
  | model => overrides.model
  | maxTurns => overrides.maxTurns.map Written.value
  | toolsDir => overrides.toolsDir
  | duplicatePolicy => overrides.duplicatePolicy.map Written.value

/-- What the variable of a setting says of it. -/
def said (vars : Environment) : (setting : Setting) → Option setting.Entry
  | cluster => vars.get? cluster.variableName
  | endpoint => vars.get? endpoint.variableName
  | model => vars.get? model.variableName
  | maxTurns => (vars.get? maxTurns.variableName).map Written.text
  | toolsDir => vars.get? toolsDir.variableName
  | duplicatePolicy => (vars.get? duplicatePolicy.variableName).map Written.text

/-- The directory of scripts that a file names. It names none if the name comes to nothing. -/
def filedToolsDir (login : Login) (file : File) : Option String :=
  match file.toolsDir with
  | some dir =>
      if login.environment.expand dir = "" then none
      else some (expandHome login (login.environment.expand dir))
  | none => none

/-- What a file says of a setting. It always says something of turns and the policy. -/
def filed (login : Login) (file : File) : (setting : Setting) → Option setting.Entry
  | cluster => file.cluster
  | endpoint => file.endpoint
  | model => file.model
  | maxTurns => some (Written.value file.maxTurns)
  | toolsDir => filedToolsDir login file
  | duplicatePolicy => some (Written.value file.duplicatePolicy)

/-- What a setting is if no layer supplies it. -/
def default (login : Login) : (setting : Setting) → setting.Value
  | cluster => none
  | endpoint => defaultEndpoint
  | model => defaultModel
  | maxTurns => File.maxTurns {}
  | toolsDir => defaultToolsDir login
  | duplicatePolicy => File.duplicatePolicy {}

/-- Logins that a file and the defaults say the same of a setting in. Only the directory of scripts
depends on the home directory and on what the file refers to. -/
structure Agrees (setting : Setting) (file : File) (login elsewhere : Login) : Prop where
  home : setting = toolsDir → elsewhere.home? = login.home?
  references : setting = toolsDir → ∀ dir, file.toolsDir = some dir →
    ∀ name ∈ Environment.references dir,
      elsewhere.environment.get? name = login.environment.get? name

/-- A number of turns, which is positive. -/
def turns? (count : Nat) : Option Nat :=
  if count = 0 then none else some count

/-- What an entry makes of a setting, if it is of any use. -/
def settle : (setting : Setting) → setting.Entry → Option setting.Value
  | cluster, text => some (if Text.isBlankText text then none else some text)
  | endpoint, text => some (Endpoint.normalize text)
  | model, text => some text
  | maxTurns, Written.text text => (word64? (Text.trimBlanks text.toList)).bind turns?
  | maxTurns, Written.value count => turns? count
  | toolsDir, text => some text
  | duplicatePolicy, Written.text text => (DuplicatePolicy.ofText text).toOption
  | duplicatePolicy, Written.value policy => some policy

/-- What an entry makes of a setting, in terms of the texts. -/
def Makes : (setting : Setting) → setting.Entry → setting.Value → Prop
  | cluster, text, value => value = if Text.isBlankText text then none else some text
  | endpoint, text, value => value = Endpoint.normalize text
  | model, text, value => value = text
  | maxTurns, Written.text text, (turns : Nat) => Spells text turns ∧ 1 ≤ turns
  | maxTurns, Written.value count, (turns : Nat) => turns = count ∧ 1 ≤ turns
  | toolsDir, text, value => value = text
  | duplicatePolicy, Written.text text, policy => Text.lower text = DuplicatePolicy.name policy
  | duplicatePolicy, Written.value given, policy => policy = given

/-- Entries that are of no use. -/
inductive Refuses : (setting : Setting) → setting.Entry → Prop
  | noTurns : Refuses maxTurns (Written.value 0)
  | noTurnsText {text : String} (hzero : Spells text 0) : Refuses maxTurns (Written.text text)
  | turnsText {text : String} (hnone : ∀ n, ¬ Spells text n) :
      Refuses maxTurns (Written.text text)
  | policyText {text : String} (hreject : Text.lower text ≠ "reject")
      (hoverwrite : Text.lower text ≠ "overwrite") :
      Refuses duplicatePolicy (Written.text text)

def value (settings : Settings) : (setting : Setting) → setting.Value
  | cluster => settings.cluster
  | endpoint => settings.endpoint
  | model => settings.model
  | maxTurns => settings.maxTurns
  | toolsDir => settings.toolsDir
  | duplicatePolicy => settings.duplicatePolicy

theorem filedToolsDir_eq (login : Login) (file : File) :
    filedToolsDir login file = fileToolsDir login file := by
  unfold filedToolsDir fileToolsDir
  cases file.toolsDir with
  | none => rfl
  | some dir => by_cases hempty : login.environment.expand dir = "" <;> simp [hempty]

theorem default_congr {login elsewhere : Login} {setting : Setting}
    (hhome : setting = toolsDir → elsewhere.home? = login.home?) :
    setting.default elsewhere = setting.default login := by
  cases setting with
  | toolsDir =>
      change defaultToolsDir elsewhere = defaultToolsDir login
      rw [defaultToolsDir, defaultToolsDir, hhome rfl]
  | _ => rfl

theorem said_congr {vars other : Environment} {setting : Setting}
    (hvariable : other.get? setting.variableName = vars.get? setting.variableName) :
    setting.said other = setting.said vars := by
  cases setting <;> rw [said, said, hvariable]

theorem Agrees.filed_eq {setting : Setting} {file : File} {login elsewhere : Login}
    (h : setting.Agrees file login elsewhere) :
    setting.filed elsewhere file = setting.filed login file := by
  cases setting with
  | toolsDir =>
      change filedToolsDir elsewhere file = filedToolsDir login file
      unfold filedToolsDir
      cases hdir : file.toolsDir with
      | none => rfl
      | some dir =>
          have hexpand : elsewhere.environment.expand dir = login.environment.expand dir :=
            Environment.expand_congr (h.references rfl dir hdir)
          simp only [hexpand, expandHome, h.home rfl]
  | _ => rfl

theorem turns?_eq_some_iff (count turns : Nat) :
    turns? count = some turns ↔ turns = count ∧ 1 ≤ turns := by
  unfold turns?
  by_cases hzero : count = 0
  · rw [if_pos hzero]
    exact iff_of_false (by rintro ⟨⟩) (by omega)
  · rw [if_neg hzero, Option.some.injEq]
    omega

theorem toOption_ofText_eq_some_iff (text : String) (policy : DuplicatePolicy) :
    (DuplicatePolicy.ofText text).toOption = some policy ↔ Text.lower text = policy.name := by
  have hnamed : DuplicatePolicy.ofName? (Text.lower text) = some policy ↔
      Text.lower text = policy.name := by
    generalize Text.lower text = word
    constructor
    · intro hfind
      have hname := List.find?_some hfind
      exact (eq_of_beq hname).symm
    · rintro rfl
      cases policy <;> rfl
  rw [← hnamed, DuplicatePolicy.ofText]
  cases DuplicatePolicy.ofName? (Text.lower text) <;> simp [Except.toOption]

theorem settle_eq_some_iff (setting : Setting) (entry : setting.Entry) (value : setting.Value) :
    setting.settle entry = some value ↔ setting.Makes entry value := by
  have hsome : ∀ {α : Type} (made wanted : α), some made = some wanted ↔ wanted = made :=
    fun made wanted => by rw [Option.some.injEq, eq_comm]
  cases setting with
  | cluster => exact hsome _ _
  | endpoint => exact hsome _ _
  | model => exact hsome _ _
  | maxTurns =>
      cases entry with
      | text text =>
          have hread : ∀ turns : Nat,
              (word64? (Text.trimBlanks text.toList)).bind turns? = some turns ↔
                Spells text turns ∧ 1 ≤ turns := by
            intro turns
            simp only [Option.bind_eq_some_iff, word64?_trimBlanks_eq_some_iff,
              turns?_eq_some_iff]
            constructor
            · rintro ⟨count, hspells, rfl, hpositive⟩
              exact ⟨hspells, hpositive⟩
            · rintro ⟨hspells, hpositive⟩
              exact ⟨turns, hspells, rfl, hpositive⟩
          exact hread value
      | value count => exact turns?_eq_some_iff count value
  | toolsDir => exact hsome _ _
  | duplicatePolicy =>
      cases entry with
      | text text => exact toOption_ofText_eq_some_iff text value
      | value policy => exact hsome _ _

/-- The entries that are of no use are those that make nothing of the setting. -/
theorem refuses_iff (setting : Setting) (entry : setting.Entry) :
    setting.Refuses entry ↔ ∀ value, ¬ setting.Makes entry value := by
  cases setting with
  | cluster => exact iff_of_false (by rintro ⟨⟩) fun hnone => hnone _ rfl
  | endpoint => exact iff_of_false (by rintro ⟨⟩) fun hnone => hnone _ rfl
  | model => exact iff_of_false (by rintro ⟨⟩) fun hnone => hnone _ rfl
  | maxTurns =>
      cases entry with
      | text text =>
          change _ ↔ ∀ turns, ¬ (Spells text turns ∧ 1 ≤ turns)
          constructor
          · rintro hrefuses turns ⟨hspells, hpositive⟩
            cases hrefuses with
            | noTurnsText hzero =>
                have hnone := hspells.unique hzero
                omega
            | turnsText hnone => exact hnone turns hspells
          · intro hnone
            by_cases hzero : Spells text 0
            · exact .noTurnsText hzero
            · refine .turnsText fun turns hspells => hnone turns ⟨hspells, ?_⟩
              exact Nat.pos_of_ne_zero fun heq => hzero (heq ▸ hspells)
      | value count =>
          change _ ↔ ∀ turns, ¬ (turns = count ∧ 1 ≤ turns)
          constructor
          · rintro ⟨⟩ turns ⟨rfl, hpositive⟩
            omega
          · intro hnone
            obtain rfl : count = 0 := by
              have hcount := hnone count
              omega
            exact .noTurns
  | toolsDir => exact iff_of_false (by rintro ⟨⟩) fun hnone => hnone _ rfl
  | duplicatePolicy =>
      cases entry with
      | text text =>
          change _ ↔ ∀ policy : DuplicatePolicy, ¬ Text.lower text = policy.name
          constructor
          · intro hrefuses policy
            cases hrefuses with
            | policyText hreject hoverwrite =>
                cases policy with
                | reject => exact hreject
                | overwrite => exact hoverwrite
          · intro hnone
            exact .policyText (hnone .reject) (hnone .overwrite)
      | value policy => exact iff_of_false (by rintro ⟨⟩) fun hnone => hnone _ rfl

theorem settle_eq_none_iff (setting : Setting) (entry : setting.Entry) :
    setting.settle entry = none ↔ setting.Refuses entry := by
  rw [refuses_iff, Option.eq_none_iff_forall_ne_some]
  exact forall_congr' fun value => not_congr (settle_eq_some_iff setting entry value)

end Setting

namespace Sources

open Layer (Decides Alike deciding)

def resolve (login : Login) (sources : Sources) : Except Fault Settings :=
  Config.resolve sources.file sources.vars login sources.overrides

/-- The sources with the variables of the login as their layer of variables. -/
def within (login : Login) (sources : Sources) : Sources :=
  { sources with vars := login.environment }

/-- What the layers say of a setting. -/
def supplied (login : Login) (sources : Sources) (setting : Setting) :
    Layer → Option setting.Entry
  | .commandLine => setting.overriding sources.overrides
  | .environment => setting.said sources.vars
  | .file => setting.filed login sources.file

/-- What the layers make of a setting. -/
def settled (login : Login) (sources : Sources) (setting : Setting) :
    Option setting.Value :=
  (deciding (sources.supplied login setting)).elim (some (setting.default login))
    setting.settle

theorem settled_of_decides {login : Login} {sources : Sources} {setting : Setting}
    {layer : Layer} {entry : setting.Entry}
    (hdecides : Decides (sources.supplied login setting) layer entry) :
    sources.settled login setting = setting.settle entry := by
  rw [settled, (Layer.deciding_eq_some_iff entry).mpr ⟨layer, hdecides⟩, Option.elim_some]

theorem settled_of_unsupplied {login : Login} {sources : Sources} {setting : Setting}
    (hnone : ∀ layer, sources.supplied login setting layer = none) :
    sources.settled login setting = some (setting.default login) := by
  rw [settled, Layer.deciding_eq_none hnone, Option.elim_none]

theorem settled_eq_none_iff (login : Login) (sources : Sources) (setting : Setting) :
    sources.settled login setting = none ↔
      ∃ layer entry, Decides (sources.supplied login setting) layer entry ∧
        setting.Refuses entry := by
  constructor
  · intro hnone
    cases hdeciding : deciding (sources.supplied login setting) with
    | none =>
        rw [settled, hdeciding] at hnone
        cases hnone
    | some entry =>
        obtain ⟨layer, hdecides⟩ := (Layer.deciding_eq_some_iff entry).mp hdeciding
        rw [settled_of_decides hdecides, Setting.settle_eq_none_iff] at hnone
        exact ⟨layer, entry, hdecides, hnone⟩
  · rintro ⟨layer, entry, hdecides, hrefuses⟩
    rw [settled_of_decides hdecides]
    exact (Setting.settle_eq_none_iff setting entry).mpr hrefuses

theorem settled_congr {login elsewhere : Login} {sources other : Sources} {setting : Setting}
    (halike : Alike (sources.supplied login setting) (other.supplied elsewhere setting))
    (hdefault : setting.default elsewhere = setting.default login) :
    other.settled elsewhere setting = sources.settled login setting := by
  rw [settled, settled, halike.deciding_eq, hdefault]

theorem supplied_within {login elsewhere : Login} {sources : Sources} {setting : Setting}
    (hvariable : elsewhere.environment.get? setting.variableName =
      login.environment.get? setting.variableName)
    (hagrees : setting.Agrees sources.file login elsewhere) :
    (sources.within elsewhere).supplied elsewhere setting =
      (sources.within login).supplied login setting := by
  funext layer
  cases layer with
  | commandLine => rfl
  | environment => exact Setting.said_congr hvariable
  | file => exact hagrees.filed_eq

/-! ## Resolving -/

section Resolving

variable (login : Login) (sources : Sources)

theorem settled_cluster : sources.settled login .cluster =
    some (resolveCluster sources.file sources.vars sources.overrides) := by
  change (sources.overrides.cluster <|> sources.vars.get? "TOOLSMITH_CLUSTER" <|>
    sources.file.cluster).elim (some none) (Setting.settle .cluster) = _
  unfold resolveCluster
  cases sources.overrides.cluster <|> sources.vars.get? "TOOLSMITH_CLUSTER" <|>
      sources.file.cluster with
  | none => rfl
  | some text =>
      change some (if Text.isBlankText text then none else some text) =
        some (Option.filter (fun cluster => !Text.isBlankText cluster) (some text))
      rw [Option.filter_some]
      cases Text.isBlankText text <;> rfl

theorem settled_endpoint : sources.settled login .endpoint =
    some (resolveEndpoint sources.file sources.vars sources.overrides) := by
  change (sources.overrides.endpoint <|> sources.vars.get? "AI_API_ENDPOINT" <|>
    sources.file.endpoint).elim (some defaultEndpoint) (Setting.settle .endpoint) = _
  unfold resolveEndpoint
  cases sources.overrides.endpoint <|> sources.vars.get? "AI_API_ENDPOINT" <|>
    sources.file.endpoint <;> rfl

theorem settled_model : sources.settled login .model =
    some (resolveModel sources.file sources.vars sources.overrides) := by
  change (sources.overrides.model <|> sources.vars.get? "AI_MODEL" <|>
    sources.file.model).elim (some defaultModel) (Setting.settle .model) = _
  unfold resolveModel
  cases sources.overrides.model <|> sources.vars.get? "AI_MODEL" <|>
    sources.file.model <;> rfl

theorem settled_toolsDir : sources.settled login .toolsDir =
    some (resolveToolsDir sources.file sources.vars login sources.overrides) := by
  change (sources.overrides.toolsDir <|> sources.vars.get? "TOOLSMITH_TOOLS_DIR" <|>
    Setting.filedToolsDir login sources.file).elim (some (defaultToolsDir login))
      (Setting.settle .toolsDir) = _
  rw [Setting.filedToolsDir_eq, resolveToolsDir]
  cases sources.overrides.toolsDir <|> sources.vars.get? "TOOLSMITH_TOOLS_DIR" <|>
    fileToolsDir login sources.file <;> rfl

theorem settled_maxTurns : sources.settled login .maxTurns =
    (resolveMaxTurns sources.file sources.vars sources.overrides).toOption := by
  have hpositive : ∀ count, Setting.turns? count =
      (if count = 0 then Except.error Fault.noTurns else .ok count).toOption := by
    intro count
    by_cases hzero : count = 0 <;> simp [Setting.turns?, hzero, Except.toOption]
  change (sources.overrides.maxTurns.map Written.value <|>
    (sources.vars.get? "TOOLSMITH_MAX_TURNS").map Written.text <|>
      some (Written.value sources.file.maxTurns)).elim (some (File.maxTurns {}))
        (Setting.settle .maxTurns) = _
  unfold resolveMaxTurns
  cases sources.overrides.maxTurns with
  | some count => exact hpositive count
  | none =>
      cases sources.vars.get? "TOOLSMITH_MAX_TURNS" with
      | none => exact hpositive sources.file.maxTurns
      | some text =>
          change (word64? (Text.trimBlanks text.toList)).bind Setting.turns? = _
          cases hread : word64? (Text.trimBlanks text.toList) with
          | none =>
              simp only [hread]
              rfl
          | some count =>
              simp only [hread]
              exact hpositive count

theorem settled_duplicatePolicy : sources.settled login .duplicatePolicy =
    (resolvePolicy sources.file sources.vars sources.overrides).toOption := by
  change (sources.overrides.duplicatePolicy.map Written.value <|>
    (sources.vars.get? "TOOLSMITH_DUPLICATE_POLICY").map Written.text <|>
      some (Written.value sources.file.duplicatePolicy)).elim (some (File.duplicatePolicy {}))
        (Setting.settle .duplicatePolicy) = _
  unfold resolvePolicy
  cases sources.overrides.duplicatePolicy with
  | some policy => rfl
  | none =>
      cases sources.vars.get? "TOOLSMITH_DUPLICATE_POLICY" with
      | none => rfl
      | some text =>
          change (DuplicatePolicy.ofText text).toOption = _
          cases hread : DuplicatePolicy.ofText text <;> simp [hread, Except.toOption]

/-- Either settings are resolved to what the layers make of each, or the layers make nothing of one
of them. -/
theorem resolve_cases :
    (∃ settings, sources.resolve login = .ok settings ∧
      ∀ setting, sources.settled login setting = some (setting.value settings)) ∨
    ∃ fault setting, sources.resolve login = .error fault ∧
      sources.settled login setting = none := by
  have hturns := settled_maxTurns login sources
  have hpolicy := settled_duplicatePolicy login sources
  unfold resolve Config.resolve
  cases hcount : resolveMaxTurns sources.file sources.vars sources.overrides with
  | error fault =>
      rw [hcount] at hturns
      exact .inr ⟨fault, .maxTurns, rfl, hturns⟩
  | ok turns =>
      rw [hcount] at hturns
      cases hnamed : resolvePolicy sources.file sources.vars sources.overrides with
      | error fault =>
          rw [hnamed] at hpolicy
          exact .inr ⟨fault, .duplicatePolicy, rfl, hpolicy⟩
      | ok policy =>
          rw [hnamed] at hpolicy
          refine .inl ⟨_, rfl, fun setting => ?_⟩
          cases setting with
          | cluster => exact settled_cluster login sources
          | endpoint => exact settled_endpoint login sources
          | model => exact settled_model login sources
          | maxTurns => exact hturns
          | toolsDir => exact settled_toolsDir login sources
          | duplicatePolicy => exact hpolicy

variable {login sources}

theorem settled_of_resolve {settings : Settings}
    (hresolve : sources.resolve login = .ok settings) (setting : Setting) :
    sources.settled login setting = some (setting.value settings) := by
  rcases resolve_cases login sources with ⟨found, hfound, hsettled⟩ | ⟨fault, _, hfault, -⟩
  · rw [hresolve] at hfound
    obtain rfl := Except.ok.inj hfound
    exact hsettled setting
  · rw [hresolve] at hfault
    cases hfault

theorem exists_resolve_eq_ok_iff :
    (∃ settings, sources.resolve login = .ok settings) ↔
      ∀ setting, sources.settled login setting ≠ none := by
  constructor
  · rintro ⟨settings, hresolve⟩ setting hnone
    rw [settled_of_resolve hresolve] at hnone
    cases hnone
  · intro hsettled
    rcases resolve_cases login sources with ⟨found, hfound, -⟩ | ⟨_, setting, -, hnone⟩
    · exact ⟨found, hfound⟩
    · exact absurd hnone (hsettled setting)

theorem exists_resolve_eq_error_iff :
    (∃ fault, sources.resolve login = .error fault) ↔
      ∃ setting, sources.settled login setting = none := by
  constructor
  · rintro ⟨fault, hfault⟩
    rcases resolve_cases login sources with ⟨found, hfound, -⟩ | ⟨_, setting, -, hnone⟩
    · rw [hfault] at hfound
      cases hfound
    · exact ⟨setting, hnone⟩
  · rintro ⟨setting, hnone⟩
    rcases resolve_cases login sources with ⟨found, -, hsettled⟩ | ⟨fault, -, hfault, -⟩
    · rw [hsettled setting] at hnone
      cases hnone
    · exact ⟨fault, hfault⟩

end Resolving

theorem maxTurns_pos {login : Login} {sources : Sources} {settings : Settings}
    (hresolve : sources.resolve login = .ok settings) : 1 ≤ settings.maxTurns := by
  have hsettled := settled_of_resolve hresolve .maxTurns
  cases hdeciding : deciding (sources.supplied login .maxTurns) with
  | none =>
      rw [settled, hdeciding] at hsettled
      have hdefault : File.maxTurns {} = settings.maxTurns := Option.some.inj hsettled
      rw [← hdefault]
      decide
  | some entry =>
      rw [settled, hdeciding] at hsettled
      have hmakes := (Setting.settle_eq_some_iff .maxTurns entry _).mp hsettled
      cases entry with
      | text text => exact hmakes.2
      | value count => exact hmakes.2

/-- As far as settings read them, variables can have any values. -/
theorem exists_vars (texts : String → Option String) :
    ∃ vars : Environment, ∀ setting : Setting,
      vars.get? setting.variableName = texts setting.variableName := by
  refine ⟨Environment.among Setting.variableNames texts, fun setting => ?_⟩
  have hname : Environment.isName setting.variableName = true := by
    cases setting <;> decide
  have hmem : setting.variableName ∈ Setting.variableNames := by
    cases setting <;> decide
  rw [Environment.get?, if_pos hname, Environment.lookup_among, if_pos hmem]

theorem settled_ne_none {login : Login} {sources : Sources} {setting : Setting}
    (hturns : setting ≠ .maxTurns) (hpolicy : setting ≠ .duplicatePolicy) :
    sources.settled login setting ≠ none := by
  rw [Ne, settled_eq_none_iff]
  rintro ⟨layer, entry, -, hrefuses⟩
  cases hrefuses <;> contradiction

theorem exists_resolve_congr {login elsewhere : Login} {sources other : Sources}
    (halike : ∀ setting, setting = .maxTurns ∨ setting = .duplicatePolicy →
      Alike (sources.supplied login setting) (other.supplied elsewhere setting)) :
    (∃ settings, sources.resolve login = .ok settings) ↔
      ∃ changed, other.resolve elsewhere = .ok changed := by
  have hsettled : ∀ setting, setting = .maxTurns ∨ setting = .duplicatePolicy →
      other.settled elsewhere setting = sources.settled login setting := by
    intro setting hsetting
    refine settled_congr (halike setting hsetting) (Setting.default_congr ?_)
    rintro rfl
    rcases hsetting with ⟨⟨⟩⟩ | ⟨⟨⟩⟩
  rw [exists_resolve_eq_ok_iff, exists_resolve_eq_ok_iff]
  refine forall_congr' fun setting => ?_
  by_cases hsetting : setting = .maxTurns ∨ setting = .duplicatePolicy
  · rw [hsettled setting hsetting]
  · obtain ⟨hturns, hpolicy⟩ := not_or.mp hsetting
    exact iff_of_true (settled_ne_none hturns hpolicy) (settled_ne_none hturns hpolicy)

/-- Each setting is what its highest layer makes of it, and its default if there is none. Settings
cannot be resolved exactly if what decides the number of turns or the policy is of no use. So a
setting does not depend on what lower layers say of it or what is said of others, but for the case
that nothing is resolved, and for that the lower layers do not matter either. Where the layer of
variables is the login's own, what a file's directory of scripts refers to is part of its layer:
that directory moves with those variables, and no other setting does. -/
theorem resolve_layers (login : Login) (sources : Sources) :
    (∀ settings, sources.resolve login = .ok settings →
      1 ≤ settings.maxTurns ∧
      ∀ setting : Setting,
        (∀ layer entry, Decides (sources.supplied login setting) layer entry →
          setting.Makes entry (setting.value settings)) ∧
        ((∀ layer, sources.supplied login setting layer = none) →
          setting.value settings = setting.default login)) ∧
    ((∃ fault, sources.resolve login = .error fault) ↔
      ∃ setting layer entry, Decides (sources.supplied login setting) layer entry ∧
        setting.Refuses entry) ∧
    (∀ (elsewhere : Login) (other : Sources) (setting : Setting),
      (setting = .toolsDir → elsewhere.home? = login.home?) →
      Alike (sources.supplied login setting) (other.supplied elsewhere setting) →
      ∀ settings changed, sources.resolve login = .ok settings →
        other.resolve elsewhere = .ok changed →
          setting.value changed = setting.value settings) ∧
    (∀ (elsewhere : Login) (other : Sources),
      (∀ setting, setting = .maxTurns ∨ setting = .duplicatePolicy →
        Alike (sources.supplied login setting) (other.supplied elsewhere setting)) →
      ((∃ settings, sources.resolve login = .ok settings) ↔
        ∃ changed, other.resolve elsewhere = .ok changed)) ∧
    (∀ (elsewhere : Login) (setting : Setting),
      elsewhere.environment.get? setting.variableName =
        login.environment.get? setting.variableName →
      setting.Agrees sources.file login elsewhere →
      ∀ settings changed, (sources.within login).resolve login = .ok settings →
        (sources.within elsewhere).resolve elsewhere = .ok changed →
          setting.value changed = setting.value settings) ∧
    ∀ texts : String → Option String, ∃ vars : Environment, ∀ setting : Setting,
      vars.get? setting.variableName = texts setting.variableName := by
  have hsame : ∀ (here elsewhere : Login) (given other : Sources) (setting : Setting),
      (setting = .toolsDir → elsewhere.home? = here.home?) →
      Alike (given.supplied here setting) (other.supplied elsewhere setting) →
      ∀ settings changed, given.resolve here = .ok settings →
        other.resolve elsewhere = .ok changed →
          setting.value changed = setting.value settings := by
    intro here elsewhere given other setting hhome halike settings changed hresolve hchanged
    apply Option.some.inj
    rw [← settled_of_resolve hresolve, ← settled_of_resolve hchanged]
    exact settled_congr halike (Setting.default_congr hhome)
  refine ⟨fun settings hresolve => ⟨maxTurns_pos hresolve, fun setting => ⟨?_, ?_⟩⟩, ?_,
    fun elsewhere other => hsame login elsewhere sources other, fun elsewhere other halike => ?_,
    fun elsewhere setting hvariable hagrees => ?_, exists_vars⟩
  · intro layer entry hdecides
    rw [← Setting.settle_eq_some_iff, ← settled_of_decides hdecides]
    exact settled_of_resolve hresolve setting
  · intro hnone
    have hsettled := settled_of_resolve hresolve setting
    rw [settled_of_unsupplied hnone] at hsettled
    exact (Option.some.inj hsettled).symm
  · rw [exists_resolve_eq_error_iff]
    exact exists_congr fun setting => settled_eq_none_iff login sources setting
  · exact exists_resolve_congr halike
  · refine hsame login elsewhere _ _ setting hagrees.home fun layer _ => ?_
    rw [supplied_within hvariable hagrees]

/-- A file's directory of scripts moves with the model where it refers to the variable for it. -/
example :
    let sources : Sources := ⟨{ toolsDir := some "$\x7bAI_MODEL\x7d/tools" }, [], {}⟩
    let directory := fun login => ((sources.within login).resolve login).toOption.map (·.toolsDir)
    directory { environment := [("AI_MODEL", "small")] } = some "small/tools" ∧
      directory { environment := [("AI_MODEL", "large")] } = some "large/tools" := by
  cbv

end Sources

end Config

end Toolbench
