import Toolbench.Proofs.Text.Percent
import Toolbench.Proofs.Text.Utf8

/-!
# Percent-encoded texts read back

An encoded text that keeps unreserved characters is made of these and of triplets. It stands for the
bytes of the text that was encoded, so different texts have different encodings.
-/

namespace Toolbench

namespace Text

namespace Percent

/-- Texts of unreserved characters and of triplets with digits in upper case. -/
inductive Encoded : List Char → Prop where
  | nil : Encoded []
  | unreserved {c : Char} {rest : List Char} (hc : isUnreserved c) (hrest : Encoded rest) :
      Encoded (c :: rest)
  | triplet {high low : Char} {rest : List Char} (hhigh : high ∈ "0123456789ABCDEF".toList)
      (hlow : low ∈ "0123456789ABCDEF".toList) (hrest : Encoded rest) :
      Encoded ('%' :: high :: low :: rest)

theorem upper_mem : ∀ n < 16, Hex.upper n ∈ "0123456789ABCDEF".toList := by
  decide

theorem value?_upper : ∀ n < 16, Hex.value? (Hex.upper n) = some n := by
  decide

theorem Encoded.triplets_append (bytes : Bytes) {rest : List Char} (hrest : Encoded rest) :
    Encoded (bytes.flatMap Percent.triplet ++ rest) := by
  induction bytes with
  | nil =>
      exact hrest
  | cons byte bytes ih =>
      have hbyte : byte.toNat < 256 := byte.toNat_lt
      exact .triplet (upper_mem _ (by omega)) (upper_mem _ (by omega)) ih

theorem encoded_encode (text : List Char) : Encoded (encode isUnreserved text) := by
  induction text with
  | nil =>
      exact .nil
  | cons c rest ih =>
      rw [encode, List.flatMap_cons, ← encode, encodeChar]
      by_cases hc : isUnreserved c = true
      · rw [if_pos hc]
        exact .unreserved hc ih
      · rw [if_neg hc]
        exact ih.triplets_append (Utf8.encodeChar c)

theorem decode_triplet_append (byte : UInt8) (rest : List Char) :
    decode (triplet byte ++ rest) = byte :: decode rest := by
  have hbyte : byte.toNat < 256 := byte.toNat_lt
  have hhigh := value?_upper (byte.toNat / 16) (by omega)
  have hlow := value?_upper (byte.toNat % 16) (by omega)
  have hvalue : 16 * (byte.toNat / 16) + byte.toNat % 16 = byte.toNat := Nat.div_add_mod _ _
  simp only [triplet, List.cons_append, List.nil_append, decode, hhigh, hlow, hvalue,
    UInt8.ofNat_toNat]

theorem decode_triplets_append (bytes : Bytes) (rest : List Char) :
    decode (bytes.flatMap triplet ++ rest) = bytes ++ decode rest := by
  induction bytes with
  | nil =>
      rfl
  | cons byte bytes ih =>
      rw [List.flatMap_cons, List.append_assoc, decode_triplet_append, ih, List.cons_append]

theorem decode_cons_of_ne {c : Char} (hc : c ≠ '%') (rest : List Char) :
    decode (c :: rest) = Utf8.encodeChar c ++ decode rest := by
  rw [decode]
  intro high low rest hpercent
  exact absurd hpercent hc

/-- An encoded text stands for the bytes of the text, if percent signs are encoded too. -/
theorem decode_encode {stays : Char → Bool} (hpercent : stays '%' = false) (text : List Char) :
    decode (encode stays text) = Utf8.encodeChars text := by
  induction text with
  | nil =>
      rfl
  | cons c rest ih =>
      rw [encode, List.flatMap_cons, ← encode, encodeChar, Utf8.encodeChars, List.flatMap_cons,
        ← Utf8.encodeChars, ← ih]
      by_cases hc : stays c = true
      · have hne : c ≠ '%' := by
          rintro rfl
          rw [hpercent] at hc
          cases hc
        rw [if_pos hc, List.singleton_append, decode_cons_of_ne hne]
      · rw [if_neg hc, decode_triplets_append]

theorem encode_injective {stays : Char → Bool} (hpercent : stays '%' = false) :
    Function.Injective (encode stays) := by
  intro left right hsame
  have hbytes := congrArg decode hsame
  rw [decode_encode hpercent, decode_encode hpercent] at hbytes
  exact Utf8.encodeChars_injective hbytes

end Percent

end Text

end Toolbench
