import Toolbench.Text.Percent

/-!
# What percent-encoding leaves

An encoded text holds characters that stay, hexadecimal digits and percent signs, and the
encoding of a character is that of no other one.
-/

namespace Toolbench

namespace Text

namespace Percent

theorem isUnreserved_upper : ∀ n < 16, isUnreserved (Hex.upper n) = true := by
  decide

theorem mem_triplet {byte : UInt8} {c : Char} (hc : c ∈ triplet byte) :
    isUnreserved c = true ∨ c = '%' := by
  have hbyte : byte.toNat < 256 := byte.toNat_lt
  simp only [triplet, List.mem_cons, List.not_mem_nil, or_false] at hc
  rcases hc with rfl | rfl | rfl
  · exact Or.inr rfl
  · exact Or.inl (isUnreserved_upper _ (by omega))
  · exact Or.inl (isUnreserved_upper _ (by omega))

theorem mem_encode {stays : Char → Bool} {text : List Char} {c : Char}
    (hc : c ∈ encode stays text) :
    (c ∈ text ∧ stays c = true) ∨ isUnreserved c = true ∨ c = '%' := by
  obtain ⟨written, hwritten, hmem⟩ := List.mem_flatMap.mp hc
  unfold encodeChar at hmem
  split at hmem
  · rename_i hstays
    obtain rfl := List.mem_singleton.mp hmem
    exact Or.inl ⟨hwritten, hstays⟩
  · obtain ⟨byte, -, htriplet⟩ := List.mem_flatMap.mp hmem
    exact Or.inr (mem_triplet htriplet)

theorem mem_encode_isUnreserved {text : List Char} {c : Char}
    (hc : c ∈ encode isUnreserved text) :
    isUnreserved c = true ∨ c = '%' := by
  rcases mem_encode hc with ⟨-, hstays⟩ | hother
  · exact Or.inl hstays
  · exact hother

theorem not_isUnreserved_ofNat : ∀ code < 0x21, isUnreserved (Char.ofNat code) = false := by
  decide

theorem toNat_of_isUnreserved {c : Char} (hc : isUnreserved c = true) : 0x20 < c.toNat := by
  by_cases hsmall : c.toNat < 0x21
  · have hnot := not_isUnreserved_ofNat c.toNat hsmall
    rw [Char.ofNat_toNat, hc] at hnot
    cases hnot
  · omega

/-- The first byte of a character tells whether it is the dot. -/
theorem exists_first_byte {c : Char} (hdot : c ≠ '.') :
    ∃ byte rest, Utf8.encodeChar c = byte :: rest ∧ byte.toNat ≠ 0x2E := by
  have hcode : c.toNat ≠ 0x2E := fun heq => hdot (Char.toNat_inj.mp heq)
  have hvalid : c.toNat < 0x110000 := by
    have hc := c.valid
    simp only [UInt32.isValidChar, Nat.isValidChar] at hc
    change c.val.toNat < _
    omega
  unfold Utf8.encodeChar
  dsimp only
  split
  · refine ⟨_, _, rfl, ?_⟩
    rw [UInt8.toNat_ofNat']
    omega
  · split
    · refine ⟨_, _, rfl, ?_⟩
      rw [UInt8.toNat_ofNat']
      omega
    · split
      · refine ⟨_, _, rfl, ?_⟩
        rw [UInt8.toNat_ofNat']
        omega
      · refine ⟨_, _, rfl, ?_⟩
        rw [UInt8.toNat_ofNat']
        omega

theorem encodeChar_ne_nil (stays : Char → Bool) (c : Char) : encodeChar stays c ≠ [] := by
  unfold encodeChar
  split
  · simp
  · by_cases hdot : c = '.'
    · subst hdot
      decide
    · obtain ⟨byte, rest, hbytes, -⟩ := exists_first_byte hdot
      simp [hbytes, triplet]

theorem encode_eq_nil_iff (stays : Char → Bool) (text : List Char) :
    encode stays text = [] ↔ text = [] := by
  cases text with
  | nil => simp [encode]
  | cons c rest => simp [encode, encodeChar_ne_nil]

end Percent

end Text

end Toolbench
