import TagEdit.Mpeg.Stream
import TagEdit.Mpeg.Tags

/-!
# Finding the stream of a file

A file is searched for the mark of a tag or of a frame. A tag is passed over; the
stream begins at the first mark of a frame. `probe` gives the duration of the
stream, where that is known.
-/

namespace TagEdit.Mpeg

/-- Why a file is no audio file. -/
inductive Fault where
  | noStream
  | malformedTag
  deriving DecidableEq, Repr

def Fault.message : Fault → Text
  | .noStream => "no audio stream found".toList
  | .malformedTag => "malformed tag".toList

/-! ## Marks -/

inductive Mark where
  | tag
  | frame
  deriving DecidableEq, Repr

/-- At how many places a mark is looked for. -/
def maxPlaces : Nat := 0xFFFFF

/-- How many bytes there must be from a mark on. -/
def markContext : Nat := 16

def mark? : Bytes → Option Mark
  | 0x49 :: 0x44 :: 0x33 :: _ => some .tag
  | 0xFF :: b :: _ => if [0xFA, 0xFB, 0xF2, 0xF3, 0xE2, 0xE3].contains b then some .frame else none
  | _ => none

/-- The first mark at one of some places, with the bytes from it on. -/
def nextMark : Nat → Bytes → Option (Mark × Bytes)
  | 0, _ => none
  | _, [] => none
  | places + 1, b :: bs =>
    match mark? (b :: bs) with
    | some m => if (bs.drop (markContext - 2)).isEmpty then none else some (m, b :: bs)
    | none => nextMark places bs

theorem length_nextMark {places : Nat} {bs : Bytes} {r : Mark × Bytes}
    (h : nextMark places bs = some r) : r.2.length ≤ bs.length := by
  fun_induction nextMark places bs with
  | case1 => cases h
  | case2 => cases h
  | case3 => cases h
  | case4 => cases h; simp
  | case5 _ _ _ _ ih =>
    have := ih h
    simp
    omega

/-! ## Files -/

/-- The first frame of the stream in a file. -/
def findStream (bs : Bytes) : Except Fault Frame :=
  match e : nextMark maxPlaces bs with
  | none => .error .noStream
  | some (.frame, rest) => (firstFrame rest).elim (.error .noStream) .ok
  | some (.tag, rest) =>
    match e' : skipTag rest with
    | none => .error .malformedTag
    | some rest' =>
      have := length_nextMark e
      have := length_skipTag e'
      findStream rest'
termination_by bs.length
decreasing_by simp_all; omega

/-- The duration of the stream in a file, if it is known. -/
def probe (file : Bytes) : Except Fault (Option Duration) :=
  (findStream file).map Frame.duration?

end TagEdit.Mpeg
