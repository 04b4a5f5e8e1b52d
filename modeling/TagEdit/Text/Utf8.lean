import TagEdit.Text.Basic

/-!
# Texts as bytes

UTF-8. `pieces` reads bytes as characters and invalid parts, an invalid part
being as long as it could still have opened a character. `decode?` refuses
invalid parts and `decodeLossy` puts U+FFFD in their place.
-/

namespace TagEdit

/-- A sequence of bytes. -/
abbrev Bytes := List UInt8

namespace Utf8

def encode (t : Text) : Bytes := t.flatMap String.utf8EncodeChar

/-- What a first byte announces: its payload, the number of bytes to follow, and the bounds of
the next one. -/
structure Lead where
  payload : Nat
  tails : Nat
  low : Nat := 0x80
  high : Nat := 0xBF

/-- The announcement of a first byte, which `none` cannot be. -/
def lead? (b : Nat) : Option Lead :=
  if b < 0x80 then some ⟨b, 0, 0x80, 0xBF⟩
  else if b < 0xC2 then none
  else if b < 0xE0 then some ⟨b - 0xC0, 1, 0x80, 0xBF⟩
  else if b = 0xE0 then some ⟨0, 2, 0xA0, 0xBF⟩
  else if b = 0xED then some ⟨0xD, 2, 0x80, 0x9F⟩
  else if b < 0xF0 then some ⟨b - 0xE0, 2, 0x80, 0xBF⟩
  else if b = 0xF0 then some ⟨0, 3, 0x90, 0xBF⟩
  else if b < 0xF4 then some ⟨b - 0xF0, 3, 0x80, 0xBF⟩
  else if b = 0xF4 then some ⟨4, 3, 0x80, 0x8F⟩
  else none

/-- Reads the bytes that a first byte announced, up to the first one that does not fit. -/
def readTails : Nat → Nat → Nat → Nat → Bytes → Option Nat × Bytes
  | 0, _, _, n, bs => (some n, bs)
  | _ + 1, _, _, _, [] => (none, [])
  | k + 1, lo, hi, n, b :: bs =>
    if lo ≤ b.toNat ∧ b.toNat ≤ hi then readTails k 0x80 0xBF (n * 64 + (b.toNat - 0x80)) bs
    else (none, b :: bs)

/-- Reads one character, or `none` for one invalid part, off a nonempty sequence. -/
def readPiece (b : UInt8) (bs : Bytes) : Option Char × Bytes :=
  match lead? b.toNat with
  | none => (none, bs)
  | some l =>
    let r := readTails l.tails l.low l.high l.payload bs
    (r.1.map Char.ofNat, r.2)

theorem readTails_length_le (k lo hi n : Nat) (bs : Bytes) :
    (readTails k lo hi n bs).2.length ≤ bs.length := by
  fun_induction readTails k lo hi n bs <;> simp_all
  omega

theorem readPiece_length_le (b : UInt8) (bs : Bytes) : (readPiece b bs).2.length ≤ bs.length := by
  unfold readPiece
  split
  · simp
  · exact readTails_length_le ..

/-- The characters and the invalid parts of a byte sequence. -/
def pieces : Bytes → List (Option Char)
  | [] => []
  | b :: bs => (readPiece b bs).1 :: pieces (readPiece b bs).2
termination_by bs => bs.length
decreasing_by exact Nat.lt_succ_of_le (readPiece_length_le b bs)

/-- The text of a byte sequence without invalid parts. -/
def decode? (bs : Bytes) : Option Text := (pieces bs).mapM id

/-- The text of a byte sequence, with U+FFFD for each invalid part. -/
def decodeLossy (bs : Bytes) : Text := (pieces bs).map fun p => p.getD (Char.ofNat 0xFFFD)

def ofString (s : String) : Bytes := encode s.toList

@[simp] theorem encode_nil : encode [] = [] := rfl

end Utf8

end TagEdit
