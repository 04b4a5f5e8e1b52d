import TagEdit.Context
import TagEdit.Mpeg.Header
import TagEdit.Text.Numeral

/-!
# Audio streams

A stream begins with a frame that another one of its kind follows. Its first
frame may carry no audio but a header of the stream, which may count the frames.
Without such a header the count is estimated from the length of the stream and
of its first frames. `duration?` turns the count into time.
-/

namespace TagEdit.Mpeg

open Binary

/-- A frame in a stream, with the bytes from its header on. -/
structure Frame where
  header : Header
  bytes : Bytes

def Frame.content (f : Frame) : Bytes := f.bytes.take f.header.frameSize

def Frame.rest (f : Frame) : Bytes := f.bytes.drop f.header.frameSize

/-- The next frame. A header that turns out to be invalid is passed over as a whole. -/
def nextFrame (skip : Nat) : Bytes → Option Frame
  | [] => none
  | b :: bs =>
    match skip with
    | skip + 1 => nextFrame skip bs
    | 0 =>
      match word? (b :: bs) with
      | none => none
      | some word =>
        if isSync word then
          match Header.ofWord? word with
          | some h => some ⟨h, b :: bs⟩
          | none => nextFrame (headerSize - 1) bs
        else nextFrame 0 bs

theorem length_nextFrame {skip : Nat} {bs : Bytes} {f : Frame} (h : nextFrame skip bs = some f) :
    0 < f.bytes.length ∧ f.bytes.length ≤ bs.length := by
  fun_induction nextFrame skip bs with
  | case1 => cases h
  | case2 _ _ _ ih => have := ih h; simp; omega
  | case3 => cases h
  | case4 => cases h; simp
  | case5 _ _ _ _ _ _ ih => have := ih h; simp; omega
  | case6 _ _ _ _ _ ih => have := ih h; simp; omega

/-- Whether what follows a frame, if it is long enough to tell, begins with a similar one. -/
def Frame.continues (f : Frame) : Bool :=
  match word? f.rest with
  | none => true
  | some word => (Header.ofWord? word).any f.header.similar

/-- The first frame of the stream: one that is complete and that a similar one follows. -/
def firstFrame (bs : Bytes) : Option Frame :=
  match e : nextFrame 0 bs with
  | none => none
  | some f =>
    if f.bytes.length < f.header.frameSize then none
    else if f.continues then some f
    else
      have := length_nextFrame e
      firstFrame f.bytes.tail
termination_by bs.length
decreasing_by simp; omega

/-! ## Counting frames -/

/-- The count of frames that a frame with a header of the stream gives, or `some none` if that
header gives none. -/
def infoCount? (f : Frame) : Option (Option Nat) :=
  let side := (f.content.drop headerSize).take f.header.sideSize
  let info := f.content.drop (headerSize + f.header.sideSize)
  let name := info.take 4
  if (name == Utf8.ofString "Info" || name == Utf8.ofString "Xing") && side.all (· == 0) then
    (word? (info.drop 4)).map fun flags =>
      if hasBit flags 1 then word? (info.drop 8) else none
  else none

/-- After how many frames, or after how many bytes of them, the estimate is made. -/
def maxFrames : Nat := 16

def maxBytes : Nat := 16 * 1024

/-- The number of frames in a stream of a given length, from the average length of the first
ones; `seen` frames have taken `taken` bytes. A stream that ends before is not estimated. -/
def estimate (total seen taken : Nat) (bs : Bytes) : Option Nat :=
  match _e : header? bs with
  | none => none
  | some h =>
    if bs.length < h.frameSize then none
    else
      let seen := seen + 1
      let taken := taken + h.frameSize
      if maxFrames < seen || maxBytes < taken then some (total * seen / taken)
      else if _ : h.frameSize = 0 then none
      else estimate total seen taken (bs.drop h.frameSize)
termination_by bs.length
decreasing_by
  have : bs ≠ [] := by rintro rfl; simp [header?, word?] at _e
  have := List.length_pos_iff.2 this
  simp
  omega

/-- The number of frames in the stream that a frame opens, if it is known. -/
def frameCount? (f : Frame) : Option Nat :=
  match infoCount? f with
  | some count => count
  | none => estimate f.bytes.length 0 0 f.bytes

/-! ## Time -/

def secondsPrecision : Nat := 53

/-- The time that samples take: seconds to their precision, their fraction then rounded to the
nearest billionth. -/
def duration (samples rate : Nat) : Duration :=
  let whole := samples / rate
  let scale := Nat.pow 2 (secondsPrecision - (if whole = 0 then 0 else Nat.log2 whole + 1))
  let ticks := Numeral.roundDiv (samples * scale) rate
  let billionths := Numeral.roundDiv (ticks % scale * 1000000000) scale
  ⟨ticks / scale * 1000000000 + billionths⟩

def Frame.duration? (f : Frame) : Option Duration :=
  (frameCount? f).map fun n => duration (n * f.header.samples) f.header.sampleRate

end TagEdit.Mpeg
