import TagEdit.Binary

/-!
# Headers of audio frames

A layer III frame begins with four bytes that give its kind, bitrate and
sampling rate; from them follow its length and how many samples it holds.
-/

namespace TagEdit.Mpeg

open Binary

inductive Version where
  | mpeg1
  | mpeg2
  /-- The extension of MPEG-2 to low sampling rates. -/
  | mpeg25
  deriving DecidableEq, Repr

/-- The header of a layer III frame. -/
structure Header where
  version : Version
  /-- In bits per second. -/
  bitrate : Nat
  /-- In samples per second. -/
  sampleRate : Nat
  mono : Bool
  padded : Bool
  deriving DecidableEq, Repr

def headerSize : Nat := 4

def bits (word shift width : Nat) : Nat := word >>> shift % Nat.pow 2 width

/-- The bitrates of MPEG-1, in thousands. -/
def fullRates : List Nat := [0, 32, 40, 48, 56, 64, 80, 96, 112, 128, 160, 192, 224, 256, 320]

/-- The bitrates of MPEG-2, in thousands. -/
def halfRates : List Nat := [0, 8, 16, 24, 32, 40, 48, 56, 64, 80, 96, 112, 128, 144, 160]

def Version.rates : Version → List Nat
  | .mpeg1 => fullRates
  | _ => halfRates

def Version.ofBits? : Nat → Option Version
  | 0 => some .mpeg25
  | 2 => some .mpeg2
  | 3 => some .mpeg1
  | _ => none

/-- By how much sampling rates are divided. -/
def Version.divisor : Version → Nat
  | .mpeg1 => 1
  | .mpeg2 => 2
  | .mpeg25 => 4

/-- Whether four bytes may open a frame: eleven set bits, and no reserved value behind them. -/
def isSync (word : Nat) : Bool :=
  bits word 21 11 == 2047 && bits word 19 2 != 1 && bits word 17 2 == 1 && bits word 12 4 != 15 &&
    bits word 10 2 != 3

/-- The header that a word denotes. Frames of a free bitrate are not known. -/
def Header.ofWord? (word : Nat) : Option Header :=
  if isSync word && bits word 12 4 != 0 && bits word 0 2 != 2 then do
    let version ← Version.ofBits? (bits word 19 2)
    let rate ← version.rates[bits word 12 4]?
    let sampleRate ← [44100, 48000, 32000][bits word 10 2]?
    return ⟨version, rate * 1000, sampleRate / version.divisor, bits word 6 2 == 3,
      bits word 9 1 == 1⟩
  else none

namespace Header

def samples (h : Header) : Nat := if h.version = .mpeg1 then 1152 else 576

/-- The length of a frame in bytes, header included. -/
def frameSize (h : Header) : Nat :=
  h.samples / 8 * h.bitrate / h.sampleRate + if h.padded then 1 else 0

/-- The length of the side information behind the header. -/
def sideSize (h : Header) : Nat :=
  match h.version, h.mono with
  | .mpeg1, false => 32
  | .mpeg1, true => 17
  | _, false => 17
  | _, true => 9

/-- Whether two frames may belong to the same stream. -/
def similar (g h : Header) : Bool :=
  g.version == h.version && g.sampleRate == h.sampleRate && g.mono == h.mono

end Header

/-- The word at the head of a byte sequence. -/
def word? : Bytes → Option Nat
  | a :: b :: c :: d :: _ => some (decode 256 [a, b, c, d])
  | _ => none

def header? (bs : Bytes) : Option Header := (word? bs).bind Header.ofWord?

end TagEdit.Mpeg
