import TagEdit.Text.Utf8

/-!
# Texts in tags

A text in a tag is written in one of four character sets, which a byte before it
names. Texts in a row are divided by a terminator: a zero byte, or an aligned
pair of them where characters take two bytes.
-/

namespace TagEdit.Id3

inductive Charset where
  | latin1
  /-- Two-byte units behind a mark of their byte order. -/
  | utf16
  /-- Two-byte units, the high byte first. -/
  | utf16be
  | utf8
  deriving DecidableEq, Repr

namespace Charset

def ofByte? (b : UInt8) : Option Charset :=
  match b.toNat with
  | 0 => some latin1
  | 1 => some utf16
  | 2 => some utf16be
  | 3 => some utf8
  | _ => none

def toByte : Charset → UInt8
  | latin1 => 0
  | utf16 => 1
  | utf16be => 2
  | utf8 => 3

/-- Whether characters take two bytes or four. -/
def isWide : Charset → Bool
  | latin1 => false
  | utf16 => true
  | utf16be => true
  | utf8 => false

/-! ## Two-byte units -/

/-- The units of a byte sequence. A single byte at the end does not count. -/
def units (highFirst : Bool) : Bytes → List Nat
  | a :: b :: rest =>
    (if highFirst then a.toNat * 256 + b.toNat else b.toNat * 256 + a.toNat) :: units highFirst rest
  | _ => []

/-- The text of some units, in which halves of a character must come in pairs. -/
def ofUnits? : List Nat → Option Text
  | [] => some []
  | [u] => if 0xD800 ≤ u ∧ u < 0xE000 then none else some [Char.ofNat u]
  | u :: v :: rest =>
    if 0xD800 ≤ u ∧ u < 0xE000 then
      if u < 0xDC00 ∧ 0xDC00 ≤ v ∧ v < 0xE000 then
        (ofUnits? rest).map (Char.ofNat (0x10000 + (u - 0xD800) * 0x400 + (v - 0xDC00)) :: ·)
      else none
    else (ofUnits? (v :: rest)).map (Char.ofNat u :: ·)

def toUnits (c : Char) : List Nat :=
  let n := c.toNat
  if n < 0x10000 then [n]
  else [0xD800 + (n - 0x10000) / 0x400, 0xDC00 + (n - 0x10000) % 0x400]

/-- A unit as two bytes, the low byte first. -/
def unitBytes (u : Nat) : Bytes := [UInt8.ofNat (u % 256), UInt8.ofNat (u / 256)]

/-! ## Reading and writing -/

/-- The text of a byte sequence, if it is valid. A sequence of no bytes is the empty text in every
character set; without a mark of the low byte first, the first two bytes count as a mark of
the high byte first. -/
def decode? (cs : Charset) (bs : Bytes) : Option Text :=
  match bs with
  | [] => some []
  | a :: rest =>
    match cs with
    | latin1 => some (bs.map fun b => Char.ofNat b.toNat)
    | utf8 => Utf8.decode? bs
    | utf16be => ofUnits? (units true bs)
    | utf16 =>
      match rest with
      | [] => none
      | b :: rest => ofUnits? (units (!(a == 0xFF && b == 0xFE)) rest)

/-- The bytes of a text. A character that the set does not have becomes a question mark. -/
def encode (cs : Charset) (t : Text) : Bytes :=
  match cs with
  | latin1 => t.map fun c => if c.toNat < 256 then UInt8.ofNat c.toNat else 63
  | utf8 => Utf8.encode t
  | utf16 => 0xFF :: 0xFE :: (t.flatMap toUnits).flatMap unitBytes
  | utf16be => (t.flatMap toUnits).flatMap fun u => (unitBytes u).reverse

def terminator (cs : Charset) : Bytes := if cs.isWide then [0, 0] else [0]

/-! ## Terminators -/

/-- The bytes before the first zero byte, and those after it. -/
def splitZero : Bytes → Option (Bytes × Bytes)
  | [] => none
  | b :: rest => if b = 0 then some ([], rest) else (splitZero rest).map fun r => (b :: r.1, r.2)

/-- The bytes before the first aligned pair of zero bytes, and those after it. -/
def splitZeros : Bytes → Option (Bytes × Bytes)
  | a :: b :: rest =>
    if a = 0 ∧ b = 0 then some ([], rest)
    else (splitZeros rest).map fun r => (a :: b :: r.1, r.2)
  | _ => none

/-- The bytes before the first terminator, and those after it. -/
def split (cs : Charset) (bs : Bytes) : Option (Bytes × Bytes) :=
  if cs.isWide then splitZeros bs else splitZero bs

/-- The bytes before the first terminator, or all of them. -/
def untilTerminator (cs : Charset) (bs : Bytes) : Bytes := ((cs.split bs).map Prod.fst).getD bs

/-- The bytes without the zero bytes at their end. -/
def trimZero : Bytes → Bytes
  | [] => []
  | b :: rest =>
    match trimZero rest with
    | [] => if b = 0 then [] else [b]
    | r => b :: r

/-- The bytes without the aligned pairs of zero bytes at their end. -/
def trimZeros : Bytes → Bytes
  | a :: b :: rest =>
    match trimZeros rest with
    | [] => if a = 0 ∧ b = 0 then [] else [a, b]
    | r => a :: b :: r
  | bs => bs

/-- How many bytes at the head of a text are never taken for terminators: one character, and what
is left over in front of aligned pairs. -/
def fixedHead (cs : Charset) (bs : Bytes) : Nat := if cs.isWide then 2 + bs.length % 2 else 1

/-- The bytes without the terminators at their end. If there is nothing else behind the head, they
all stay. -/
def trimTerminators (cs : Charset) (bs : Bytes) : Bytes :=
  let tail := bs.drop (cs.fixedHead bs)
  let kept := if cs.isWide then trimZeros tail else trimZero tail
  if kept.isEmpty then bs else bs.take (cs.fixedHead bs) ++ kept

end Charset

end TagEdit.Id3
