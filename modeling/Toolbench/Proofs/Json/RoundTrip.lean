import Toolbench.Proofs.Json.Members
import Toolbench.Proofs.Json.NumberReading
import Toolbench.Proofs.Json.Reading
import Toolbench.Proofs.Json.Writing

/-!
# Reading what was written

The text of a value is read as this value with the members of its objects in order, provided that
it does not nest too deep and that its floating-point numbers are read as they were written.
-/

namespace Toolbench

namespace Binary64

/-- The text of the number is read as this number. -/
def RoundTrips (x : Binary64) : Prop :=
  Json.parse x.shortText = .ok (.number (.real x))

/-- Whether the text of the number is read as this number. -/
def roundTrips (x : Binary64) : Bool :=
  match Json.parse x.shortText with
  | .ok (.number (.real y)) => y == x
  | _ => false

theorem roundTrips_iff (x : Binary64) : x.roundTrips ↔ x.RoundTrips := by
  unfold roundTrips RoundTrips
  split
  · rename_i y hparse
    simp [hparse]
  · rename_i hother
    constructor
    · intro hfalse
      cases hfalse
    · exact fun hparse => absurd hparse (hother x)

instance (x : Binary64) : Decidable x.RoundTrips :=
  decidable_of_iff (x.roundTrips = true) x.roundTrips_iff

end Binary64

namespace Json

/-! ## Parts of values -/

mutual

/-- The value with the members of each object in ascending order of their keys. -/
def ordered : Json → Json
  | .null => .null
  | .bool value => .bool value
  | .number value => .number value
  | .string text => .string text
  | .array items => .array (orderedItems items)
  | .object members => .object (Members.ofList (orderedMembers members))

def orderedItems : List Json → List Json
  | [] => []
  | item :: items => ordered item :: orderedItems items

def orderedMembers : Members → Members
  | [] => []
  | (key, value) :: members => (key, ordered value) :: orderedMembers members

end

mutual

/-- How deep values nest in a value. -/
def nesting : Json → Nat
  | .null => 0
  | .bool _ => 0
  | .number _ => 0
  | .string _ => 0
  | .array items => nestingItems items + 1
  | .object members => nestingMembers members + 1

def nestingItems : List Json → Nat
  | [] => 0
  | item :: items => max (nesting item) (nestingItems items)

def nestingMembers : Members → Nat
  | [] => 0
  | (_, value) :: members => max (nesting value) (nestingMembers members)

end

mutual

/-- The floating-point numbers in a value. -/
def floats : Json → List Binary64
  | .null => []
  | .bool _ => []
  | .number (.integer _) => []
  | .number (.real value) => [value]
  | .string _ => []
  | .array items => floatsOfItems items
  | .object members => floatsOfMembers members

def floatsOfItems : List Json → List Binary64
  | [] => []
  | item :: items => floats item ++ floatsOfItems items

def floatsOfMembers : Members → List Binary64
  | [] => []
  | (_, value) :: members => floats value ++ floatsOfMembers members

end

/-! ## Scalars -/

theorem skipSpaces_cons {c : Char} (hc : isSpace c = false) (rest : List Char) :
    skipSpaces (c :: rest) = c :: rest := by
  simp [skipSpaces, hc]

theorem isSpace_of_isDigit {c : Char} (hc : c.isDigit) : isSpace c = false := by
  have hne := Decimal.ne_of_isDigit hc
  simp [isSpace, hne ' ' rfl, hne '\n' rfl, hne '\t' rfl, hne '\r' rfl]

theorem readString_escapeChars (text rest : List Char) :
    readString (escapeChars text ++ '"' :: rest) = .ok (text, rest) := by
  obtain ⟨glyphs, htext, hchars⟩ := exists_glyphs text
  rw [← htext, readString_glyphs, hchars]

theorem readValue_quoteChars (fuel depth : Nat) (text : String) (rest : List Char) :
    readValue (fuel + 1) depth (quoteChars text.toList ++ rest) = .ok (.string text, rest) := by
  have hquote : quoteChars text.toList ++ rest =
      '"' :: (escapeChars text.toList ++ '"' :: rest) := by
    simp [quoteChars]
  rw [hquote, readValue, skipSpaces_cons rfl]
  simp only [readString_escapeChars]
  simp [bind, Except.bind]

theorem readValue_digit {c : Char} (hc : c.isDigit) (fuel depth : Nat) (rest : List Char) :
    readValue (fuel + 1) depth (c :: rest) =
      (readNumber true (c :: rest)).map fun (value, rest) => (.number value, rest) := by
  rw [readValue, skipSpaces_cons (isSpace_of_isDigit hc)]
  split
  all_goals rename_i htext
  case h_1 => cases htext
  case h_9 =>
    obtain ⟨rfl, rfl⟩ := List.cons_eq_cons.mp htext
    rw [if_pos hc]
    simp only [bind, Except.bind]
    cases readNumber true (c :: rest) <;> rfl
  all_goals
    obtain ⟨rfl, -⟩ := List.cons_eq_cons.mp htext
    cases hc

theorem readValue_minus (fuel depth : Nat) (rest : List Char) :
    readValue (fuel + 1) depth ('-' :: rest) =
      (readNumber false rest).map fun (value, rest) => (.number value, rest) := by
  rw [readValue, skipSpaces_cons rfl]
  simp only [bind, Except.bind]
  cases readNumber false rest <;> rfl

theorem head_of_isMagnitude {text : List Char} (htext : IsMagnitude text) :
    ∃ c rest, text = c :: rest ∧ c.isDigit := by
  cases htext with
  | intro hwhole =>
      obtain ⟨c, rest, rfl, hc⟩ := head_of_isWhole hwhole
      exact ⟨c, _, rfl, hc⟩

/-- A number is read as one number, whatever follows it. -/
theorem readValue_number {text : List Char} (htext : IsNumber text) :
    ∃ value? : Option Number, ∀ fuel depth rest, endsNumber rest →
      (readValue (fuel + 1) depth (text ++ rest)).toOption =
        value?.map fun value => (.number value, rest) := by
  have hmap : ∀ (result : Except Fault (Number × List Char)) (value? : Option Number)
      (rest : List Char), result.toOption = value?.map (fun value => (value, rest)) →
      (result.map fun (value, rest) => (Json.number value, rest)).toOption =
        value?.map fun value => (.number value, rest) := by
    intro result value? rest hresult
    cases result <;> cases value? <;> simp_all [Except.toOption, Except.map]
  cases htext with
  | negative hmagnitude =>
      obtain ⟨value?, hvalue⟩ := readsWhole_readNumber false hmagnitude
      refine ⟨value?, fun fuel depth rest hrest => ?_⟩
      rw [List.cons_append, readValue_minus]
      exact hmap _ _ _ (hvalue rest hrest)
  | positive hmagnitude =>
      obtain ⟨value?, hvalue⟩ := readsWhole_readNumber true hmagnitude
      refine ⟨value?, fun fuel depth rest hrest => ?_⟩
      obtain ⟨c, more, hhead, hc⟩ := head_of_isMagnitude hmagnitude
      have hread := hvalue rest hrest
      rw [hhead, List.cons_append] at hread ⊢
      rw [readValue_digit hc]
      exact hmap _ _ _ hread

theorem parse_eq_ok_iff (text : String) (value : Json) :
    parse text = .ok value ↔ ∃ rest,
      readValue (2 * text.toList.length + 2) maxDepth text.toList = .ok (value, rest) ∧
        skipSpaces rest = [] := by
  unfold parse readDocument
  simp only [bind, Except.bind]
  cases readValue (2 * text.toList.length + 2) maxDepth text.toList with
  | error fault => simp
  | ok result =>
      obtain ⟨found, rest⟩ := result
      cases hrest : skipSpaces rest with
      | nil => simp [hrest]
      | cons c more => simp [hrest]

theorem readValue_float {x : Binary64} (hx : x.RoundTrips) (fuel depth : Nat)
    {rest : List Char} (hrest : endsNumber rest) :
    readValue (fuel + 1) depth (x.shortText.toList ++ rest) = .ok (.number (.real x), rest) := by
  obtain ⟨value?, hread⟩ := readValue_number (isNumber_shortText x)
  obtain ⟨behind, hparsed, -⟩ := (parse_eq_ok_iff _ _).mp hx
  have hwhole := hread (2 * x.shortText.toList.length + 1) maxDepth [] rfl
  rw [List.append_nil, hparsed] at hwhole
  have hvalue : value? = some (.real x) := by
    cases value? with
    | none => cases hwhole
    | some value =>
        obtain ⟨hvalue, -⟩ := Prod.mk.inj (Option.some.inj hwhole)
        rw [Json.number.inj hvalue]
  have hresult := hread fuel depth rest hrest
  rw [hvalue] at hresult
  cases hfound : readValue (fuel + 1) depth (x.shortText.toList ++ rest) with
  | error fault =>
      rw [hfound] at hresult
      cases hresult
  | ok found =>
      rw [hfound] at hresult
      rw [Option.some.inj hresult]

theorem readValue_integer (n : WideInt) (fuel depth : Nat) {rest : List Char}
    (hrest : endsNumber rest) :
    readValue (fuel + 1) depth ((Decimal.intText n.value).toList ++ rest) =
      .ok (.number (.integer n), rest) := by
  have hsize : n.value.natAbs < 0x10000000000000000 := by
    have hlower := n.lower
    have hupper := n.upper
    omega
  rw [Decimal.toList_intText]
  by_cases hn : n.value < 0
  · rw [if_pos hn, List.cons_append, readValue_minus,
      readNumber_digitChars hsize (integerNumber_of_neg hn) hrest]
    rfl
  · obtain ⟨c, more, hdigits, hc⟩ := Decimal.exists_digitChars n.value.natAbs
    have hread := readNumber_digitChars hsize (integerNumber_of_nonneg (by omega)) hrest
    rw [if_neg hn]
    rw [hdigits, List.cons_append] at hread ⊢
    rw [readValue_digit hc, hread]
    rfl

/-! ## Lists and objects -/

/-- A value starts with a character that neither separates nor closes. -/
theorem exists_writeChars (value : Json) : ∃ c rest, writeChars value = c :: rest ∧
    isSpace c = false ∧ c ≠ ']' := by
  cases value with
  | null => exact ⟨'n', _, rfl, rfl, by decide⟩
  | bool value => cases value <;> exact ⟨_, _, rfl, rfl, by decide⟩
  | number value =>
      obtain ⟨c, rest, htext, hc⟩ := head_of_isNumber (isNumber_numberText value)
      refine ⟨c, rest, by rw [writeChars, htext], ?_⟩
      rcases hc with hdigit | rfl
      · exact ⟨isSpace_of_isDigit hdigit, Decimal.ne_of_isDigit hdigit ']' rfl⟩
      · exact ⟨rfl, by decide⟩
  | string text => exact ⟨'"', _, rfl, rfl, by decide⟩
  | array items => cases items <;> exact ⟨_, _, rfl, rfl, by decide⟩
  | object members => cases members <;> exact ⟨_, _, rfl, rfl, by decide⟩

theorem endsNumber_writeItems (items : List Json) (rest : List Char) :
    endsNumber (writeItems items ++ ']' :: rest) := by
  cases items <;> rfl

theorem endsNumber_writeMembers (members : Members) (rest : List Char) :
    endsNumber (writeMembers members ++ '\x7d' :: rest) := by
  cases members <;> rfl

theorem nextItem_writeChars (item : Json) (rest : List Char) :
    nextItem true (writeChars item ++ rest) = .ok (true, writeChars item ++ rest) ∧
      nextItem false (',' :: (writeChars item ++ rest)) =
        .ok (true, writeChars item ++ rest) := by
  obtain ⟨c, more, htext, hspace, hclose⟩ := exists_writeChars item
  rw [htext, List.cons_append]
  constructor
  · simp [nextItem, skipSpaces_cons hspace, hclose]
  · rw [nextItem, skipSpaces_cons rfl]
    simp [skipSpaces_cons hspace, hclose]

theorem readItems_cons {fuel depth : Nat} {first : Bool} {text behind rest left : List Char}
    {item : Json} {items : List Json} (hnext : nextItem first text = .ok (true, behind))
    (hitem : readValue fuel depth behind = .ok (item, rest))
    (hitems : readItems fuel depth false rest = .ok (items, left)) :
    readItems (fuel + 1) depth first text = .ok (item :: items, left) := by
  rw [readItems, hnext]
  simp only [bind, Except.bind, if_true, hitem, hitems]

/-- A member is read after its key's opening quote. -/
theorem readMembers_cons {fuel depth : Nat} {first : Bool} {text rest left : List Char}
    {key : String} {behind : List Char} {value : Json} {members : Members}
    (hnext : nextKey first text =
      .ok (true, escapeChars key.toList ++ '"' :: ':' :: behind))
    (hvalue : readValue fuel depth behind = .ok (value, rest))
    (hmembers : readMembers fuel depth false rest = .ok (members, left)) :
    readMembers (fuel + 1) depth first text = .ok ((key, value) :: members, left) := by
  have hcolon : readColon (':' :: behind) = .ok behind := rfl
  rw [readMembers, hnext]
  simp only [bind, Except.bind, if_true, readString_escapeChars, hcolon, hvalue, hmembers,
    String.ofList_toList]

theorem readValue_array {fuel depth : Nat} {text rest : List Char} {items : List Json}
    (hdepth : 1 < depth) (hitems : readItems fuel (depth - 1) true text = .ok (items, rest)) :
    readValue (fuel + 1) depth ('[' :: text) = .ok (.array items, rest) := by
  rw [readValue, skipSpaces_cons rfl]
  simp only [bind, Except.bind, hitems]
  rw [if_neg (by omega)]

theorem readValue_object {fuel depth : Nat} {text rest : List Char} {members : Members}
    (hdepth : 1 < depth)
    (hmembers : readMembers fuel (depth - 1) true text = .ok (members, rest)) :
    readValue (fuel + 1) depth ('\x7b' :: text) = .ok (.object (Members.ofList members), rest) := by
  rw [readValue, skipSpaces_cons rfl]
  simp only [bind, Except.bind, hmembers]
  rw [if_neg (by omega)]

/-! ## Values -/

/-- A member as it is written, in front of what follows it. -/
def memberChars (key : String) (value : Json) (rest : List Char) : List Char :=
  '"' :: (escapeChars key.toList ++ '"' :: ':' :: (writeChars value ++ rest))

theorem writeMembers_cons_append (key : String) (value : Json) (members : Members)
    (rest : List Char) : writeMembers ((key, value) :: members) ++ rest =
      ',' :: memberChars key value (writeMembers members ++ rest) := by
  simp [writeMembers, memberChars, quoteChars]

theorem nextKey_memberChars (key : String) (value : Json) (rest : List Char) :
    nextKey true (memberChars key value rest) =
        .ok (true, escapeChars key.toList ++ '"' :: ':' :: (writeChars value ++ rest)) ∧
      nextKey false (',' :: memberChars key value rest) =
        .ok (true, escapeChars key.toList ++ '"' :: ':' :: (writeChars value ++ rest)) :=
  ⟨rfl, rfl⟩

mutual

/-- A value is read back in front of anything that does not go on with a number. -/
theorem readValue_writeChars (value : Json) {fuel depth : Nat} {rest : List Char}
    (hfloats : ∀ x ∈ floats value, x.RoundTrips) (hdepth : nesting value < depth)
    (hfuel : 2 * (writeChars value).length ≤ fuel) (hrest : endsNumber rest) :
    readValue fuel depth (writeChars value ++ rest) = .ok (ordered value, rest) := by
  obtain ⟨c, more, htext, -⟩ := exists_writeChars value
  have hlength : (writeChars value).length = more.length + 1 := by
    rw [htext, List.length_cons]
  obtain ⟨fuel, rfl⟩ : ∃ count, fuel = count + 2 := ⟨fuel - 2, by omega⟩
  match value with
  | .null => rfl
  | .bool true => rfl
  | .bool false => rfl
  | .number (.integer n) => exact readValue_integer n (fuel + 1) depth hrest
  | .number (.real x) =>
      exact readValue_float (hfloats x List.mem_cons_self) (fuel + 1) depth hrest
  | .string text => exact readValue_quoteChars (fuel + 1) depth text rest
  | .array [] =>
      rw [nesting] at hdepth
      exact readValue_array (by omega) rfl
  | .object [] =>
      rw [nesting] at hdepth
      exact readValue_object (by omega) rfl
  | .array (item :: items) =>
      have hwritten : writeChars (.array (item :: items)) ++ rest =
          '[' :: (writeChars item ++ (writeItems items ++ ']' :: rest)) := by
        simp [writeChars]
      have hsize : (writeChars (.array (item :: items))).length =
          (writeChars item).length + (writeItems items).length + 2 := by
        simp [writeChars]
        omega
      rw [floats, floatsOfItems, List.forall_mem_append] at hfloats
      rw [nesting, nestingItems] at hdepth
      have hitem : readValue fuel (depth - 1)
          (writeChars item ++ (writeItems items ++ ']' :: rest)) =
            .ok (ordered item, writeItems items ++ ']' :: rest) :=
        readValue_writeChars item hfloats.1 (by omega) (by omega)
          (endsNumber_writeItems items rest)
      have hitems : readItems fuel (depth - 1) false (writeItems items ++ ']' :: rest) =
          .ok (orderedItems items, rest) :=
        readItems_writeItems items hfloats.2 (by omega) (by omega)
      rw [hwritten]
      exact readValue_array (by omega)
        (readItems_cons (nextItem_writeChars item _).1 hitem hitems)
  | .object ((key, value) :: members) =>
      have hwritten : writeChars (.object ((key, value) :: members)) ++ rest =
          '\x7b' :: memberChars key value (writeMembers members ++ '\x7d' :: rest) := by
        simp [writeChars, memberChars, quoteChars]
      have hsize : (writeChars value).length + (writeMembers members).length + 5 ≤
          (writeChars (.object ((key, value) :: members))).length := by
        simp [writeChars, quoteChars]
        omega
      rw [floats, floatsOfMembers, List.forall_mem_append] at hfloats
      rw [nesting, nestingMembers] at hdepth
      have hvalue : readValue fuel (depth - 1)
          (writeChars value ++ (writeMembers members ++ '\x7d' :: rest)) =
            .ok (ordered value, writeMembers members ++ '\x7d' :: rest) :=
        readValue_writeChars value hfloats.1 (by omega) (by omega)
          (endsNumber_writeMembers members rest)
      have hmembers : readMembers fuel (depth - 1) false
          (writeMembers members ++ '\x7d' :: rest) = .ok (orderedMembers members, rest) :=
        readMembers_writeMembers members hfloats.2 (by omega) (by omega)
      rw [hwritten]
      exact readValue_object (by omega)
        (readMembers_cons (nextKey_memberChars key value _).1 hvalue hmembers)

theorem readItems_writeItems (items : List Json) {fuel depth : Nat} {rest : List Char}
    (hfloats : ∀ x ∈ floatsOfItems items, x.RoundTrips) (hdepth : nestingItems items < depth)
    (hfuel : 2 * (writeItems items).length < fuel) :
    readItems fuel depth false (writeItems items ++ ']' :: rest) =
      .ok (orderedItems items, rest) := by
  match fuel, items with
  | 0, _ => exact absurd hfuel (Nat.not_lt_zero _)
  | fuel + 1, [] => rfl
  | fuel + 1, item :: items =>
      rw [floatsOfItems, List.forall_mem_append] at hfloats
      rw [nestingItems, Nat.max_lt] at hdepth
      have htext : writeItems (item :: items) = ',' :: (writeChars item ++ writeItems items) := rfl
      rw [htext, List.length_cons, List.length_append] at hfuel
      rw [htext, List.cons_append, List.append_assoc]
      have hitem : readValue fuel depth (writeChars item ++ (writeItems items ++ ']' :: rest)) =
          .ok (ordered item, writeItems items ++ ']' :: rest) :=
        readValue_writeChars item hfloats.1 hdepth.1 (by omega) (endsNumber_writeItems items rest)
      have hitems : readItems fuel depth false (writeItems items ++ ']' :: rest) =
          .ok (orderedItems items, rest) :=
        readItems_writeItems items hfloats.2 hdepth.2 (by omega)
      exact readItems_cons (nextItem_writeChars item _).2 hitem hitems

theorem readMembers_writeMembers (members : Members) {fuel depth : Nat} {rest : List Char}
    (hfloats : ∀ x ∈ floatsOfMembers members, x.RoundTrips)
    (hdepth : nestingMembers members < depth) (hfuel : 2 * (writeMembers members).length < fuel) :
    readMembers fuel depth false (writeMembers members ++ '\x7d' :: rest) =
      .ok (orderedMembers members, rest) := by
  match fuel, members with
  | 0, _ => exact absurd hfuel (Nat.not_lt_zero _)
  | fuel + 1, [] => rfl
  | fuel + 1, (key, value) :: members =>
      have hsize : (writeChars value).length + (writeMembers members).length + 1 ≤
          (writeMembers ((key, value) :: members)).length := by
        simp [writeMembers]
        omega
      rw [floatsOfMembers, List.forall_mem_append] at hfloats
      rw [nestingMembers, Nat.max_lt] at hdepth
      rw [writeMembers_cons_append]
      have hvalue : readValue fuel depth
          (writeChars value ++ (writeMembers members ++ '\x7d' :: rest)) =
            .ok (ordered value, writeMembers members ++ '\x7d' :: rest) :=
        readValue_writeChars value hfloats.1 hdepth.1 (by omega)
          (endsNumber_writeMembers members rest)
      have hmembers : readMembers fuel depth false (writeMembers members ++ '\x7d' :: rest) =
          .ok (orderedMembers members, rest) :=
        readMembers_writeMembers members hfloats.2 hdepth.2 (by omega)
      exact readMembers_cons (nextKey_memberChars key value _).2 hvalue hmembers

end

/-- The text of a value is read as the value with its members in order. -/
theorem parse_write {value : Json} (hfloats : ∀ x ∈ floats value, x.RoundTrips)
    (hdepth : nesting value < maxDepth) : parse value.write = .ok value.ordered := by
  have hread : readValue (2 * (writeChars value).length + 2) maxDepth (writeChars value ++ []) =
      .ok (ordered value, []) :=
    readValue_writeChars value hfloats hdepth (by omega) rfl
  rw [List.append_nil] at hread
  rw [parse_eq_ok_iff, write, String.toList_ofList]
  exact ⟨[], hread, rfl⟩

theorem parse_write_of_floats_eq_nil {value : Json} (hfloats : floats value = [])
    (hdepth : nesting value < maxDepth) : parse value.write = .ok value.ordered := by
  apply parse_write _ hdepth
  rw [hfloats]
  exact List.forall_mem_nil _

end Json

end Toolbench
