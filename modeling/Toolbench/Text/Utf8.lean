/-!
# UTF-8

Texts as bytes and bytes as texts.  Reading is either strict or replaces each
maximal broken piece by one replacement character.
-/

namespace Toolbench

namespace Text

abbrev Bytes := List UInt8

namespace Utf8

def encodeChar (c : Char) : Bytes :=
  let code := c.toNat
  if code < 0x80 then [UInt8.ofNat code]
  else if code < 0x800 then
    [UInt8.ofNat (0xC0 + code / 0x40), UInt8.ofNat (0x80 + code % 0x40)]
  else if code < 0x10000 then
    [UInt8.ofNat (0xE0 + code / 0x1000), UInt8.ofNat (0x80 + code / 0x40 % 0x40),
      UInt8.ofNat (0x80 + code % 0x40)]
  else
    [UInt8.ofNat (0xF0 + code / 0x40000), UInt8.ofNat (0x80 + code / 0x1000 % 0x40),
      UInt8.ofNat (0x80 + code / 0x40 % 0x40), UInt8.ofNat (0x80 + code % 0x40)]

def encodeChars (text : List Char) : Bytes :=
  text.flatMap encodeChar

def encode (text : String) : Bytes :=
  encodeChars text.toList

def size (text : List Char) : Nat :=
  (encodeChars text).length

/-- What a first byte of several promises about the bytes after it. -/
structure Lead where
  /-- The bounds of the second byte. -/
  low : Nat
  high : Nat
  /-- The bits of the character that the first byte holds. -/
  bits : Nat
  /-- How many bytes follow the second one. -/
  more : Nat

/-- The first bytes of sequences that are longer than one byte. -/
def lead? (first : Nat) : Option Lead :=
  if 0xC2 ≤ first && first ≤ 0xDF then some ⟨0x80, 0xBF, first % 0x20, 0⟩
  else if first == 0xE0 then some ⟨0xA0, 0xBF, 0, 1⟩
  else if first == 0xED then some ⟨0x80, 0x9F, 0xD, 1⟩
  else if 0xE1 ≤ first && first ≤ 0xEF then some ⟨0x80, 0xBF, first % 0x10, 1⟩
  else if first == 0xF0 then some ⟨0x90, 0xBF, 0, 2⟩
  else if 0xF1 ≤ first && first ≤ 0xF3 then some ⟨0x80, 0xBF, first % 8, 2⟩
  else if first == 0xF4 then some ⟨0x80, 0x8F, 4, 2⟩
  else none

/-- Reads the remaining bytes of a sequence; `none` where one is out of place. -/
def readTail : Nat → Nat → Bytes → Option Char × Bytes
  | 0, code, rest => (some (Char.ofNat code), rest)
  | _ + 1, _, [] => (none, [])
  | more + 1, code, byte :: rest =>
      if 0x80 ≤ byte.toNat && byte.toNat ≤ 0xBF then
        readTail more (code * 0x40 + byte.toNat % 0x40) rest
      else
        (none, byte :: rest)

/-- Reads one character, or passes over one maximal broken piece. -/
def readChar (first : UInt8) (rest : Bytes) : Option Char × Bytes :=
  if first.toNat < 0x80 then (some (Char.ofNat first.toNat), rest)
  else
    match lead? first.toNat, rest with
    | none, rest => (none, rest)
    | some _, [] => (none, [])
    | some lead, byte :: rest =>
        if lead.low ≤ byte.toNat && byte.toNat ≤ lead.high then
          readTail lead.more (lead.bits * 0x40 + byte.toNat % 0x40) rest
        else
          (none, byte :: rest)

theorem readTail_length_le (more code : Nat) (rest : Bytes) :
    (readTail more code rest).2.length ≤ rest.length := by
  induction rest generalizing more code with
  | nil => cases more <;> simp [readTail]
  | cons byte rest ih =>
      cases more with
      | zero => simp [readTail]
      | succ more =>
          rw [readTail]
          split
          · exact Nat.le_trans (ih ..) (Nat.le_succ _)
          · exact Nat.le_refl _

theorem readChar_length_le (first : UInt8) (rest : Bytes) :
    (readChar first rest).2.length ≤ rest.length := by
  unfold readChar
  by_cases hsmall : first.toNat < 0x80
  · simp [hsmall]
  · cases hlead : lead? first.toNat with
    | none => simp [hsmall]
    | some lead =>
        cases rest with
        | nil => simp [hsmall]
        | cons byte rest =>
            simp only [hsmall, if_false]
            split
            · exact Nat.le_trans (readTail_length_le ..) (Nat.le_succ _)
            · exact Nat.le_refl _

/-- The characters of the bytes, `none` for each maximal broken piece. -/
def readChars : Bytes → List (Option Char)
  | [] => []
  | first :: rest => (readChar first rest).1 :: readChars (readChar first rest).2
termination_by bytes => bytes.length
decreasing_by exact Nat.lt_succ_of_le (readChar_length_le ..)

def decode? (bytes : Bytes) : Option String :=
  ((readChars bytes).mapM id).map String.ofList

/-- The text of bytes, with a replacement character for each broken piece. -/
def decodeLossy (bytes : Bytes) : String :=
  String.ofList ((readChars bytes).map fun c => c.getD (Char.ofNat 0xFFFD))

end Utf8

end Text

end Toolbench
