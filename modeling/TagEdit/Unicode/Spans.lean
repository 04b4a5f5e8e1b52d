import TagEdit.Unicode.CharSet

/-!
# Ranges of characters as bytes

UTF-8 writes a range of characters as sequences of byte ranges. A range is cut
where the number of bytes changes and where it begins or ends within a block of
64, 4096 or 262144 characters; what is left between the cuts is one sequence,
and any choice of bytes from it is a character of the range.
-/

namespace TagEdit.Unicode

structure ByteRange where
  lo : Nat
  hi : Nat
  deriving DecidableEq, Repr

/-- Ranges of bytes that follow one another. -/
abbrev Spans := List ByteRange

namespace Spans

def bytes (n : Nat) : List Nat :=
  if n < 0x80 then [n]
  else if n < 0x800 then [0xC0 + n / 64, 0x80 + n % 64]
  else if n < 0x10000 then [0xE0 + n / 4096, 0x80 + n / 64 % 64, 0x80 + n % 64]
  else [0xF0 + n / 262144, 0x80 + n / 4096 % 64, 0x80 + n / 64 % 64, 0x80 + n % 64]

/-- The first code point behind a cut between lengths. -/
def lengthCut? (lo hi : Nat) : Option Nat :=
  [0x80, 0x800, 0x10000].find? fun n => decide (lo < n ∧ n ≤ hi)

/-- The first code point behind a cut at an end of a block. -/
def blockCut? (block lo hi : Nat) : Option Nat :=
  if lo / block = hi / block then none
  else if lo % block ≠ 0 then some ((lo / block + 1) * block)
  else if hi % block ≠ block - 1 then some (hi / block * block)
  else none

/-- The first code point behind the cut to be made first. -/
def cut? (lo hi : Nat) : Option Nat :=
  lengthCut? lo hi <|>
    if hi < 0x80 then none
    else blockCut? 64 lo hi <|> blockCut? 4096 lo hi <|> blockCut? 262144 lo hi

/-- The sequences that write the code points between two bounds. -/
def ofRange (lo hi : Nat) : List Spans :=
  let whole := (bytes lo).zipWith ByteRange.mk (bytes hi)
  match cut? lo hi with
  | none => [whole]
  | some n => if _h : lo < n ∧ n ≤ hi then ofRange lo (n - 1) ++ ofRange n hi else [whole]
termination_by hi - lo
decreasing_by all_goals omega

/-- The parts of a range on either side of the surrogates, which no byte sequence writes. -/
def scalars (r : Nat × Nat) : List (Nat × Nat) :=
  if r.1 < 0xE000 ∧ 0xD7FF < r.2 then
    [(r.1, 0xD7FF), (0xE000, r.2)].filter fun p => decide (p.1 ≤ p.2)
  else [r]

/-- The sequences that write the members of a set, in ascending order. -/
def ofSet (s : CharSet) : List Spans :=
  (s.ranges.flatMap scalars).flatMap fun r => ofRange r.1 r.2

end Spans

end TagEdit.Unicode
