/-!
# Sets of characters

A set of code points as ascending closed ranges that neither meet nor touch.
`ofRanges` brings any list of ranges into that form; `union`, `compl`, `inter`,
`diff` and `symmDiff` are the set operations, and `negate` is what a pattern
makes of a complement. `decode` reads the compact text
in which the tables of this folder are written: hexadecimal ranges `lo-hi`,
single points `lo`, and `lo-hi/2` for every second point.
-/

namespace TagEdit.Unicode

structure CharSet where
  /-- Ascending closed ranges. -/
  ranges : List (Nat × Nat)
  deriving DecidableEq, Repr

namespace CharSet

def top : Nat := 0x10FFFF

/-- Looks a code point up in ascending ranges; the search ends at the first range beyond it. -/
def memRanges (n : Nat) : List (Nat × Nat) → Bool
  | [] => false
  | (lo, hi) :: rest => if n < lo then false else if n ≤ hi then true else memRanges n rest

def memCode (s : CharSet) (n : Nat) : Bool := memRanges n s.ranges

def contains (s : CharSet) (c : Char) : Bool := s.memCode c.toNat

/-- Joins ranges that meet or touch, in a list sorted by lower ends. -/
def joinRanges : List (Nat × Nat) → List (Nat × Nat)
  | [] => []
  | [r] => [r]
  | r :: s :: rest =>
    if s.1 ≤ r.2 + 1 then joinRanges ((r.1, max r.2 s.2) :: rest) else r :: joinRanges (s :: rest)
termination_by rs => rs.length

/-- The set covered by any list of ranges. -/
def ofRanges (rs : List (Nat × Nat)) : CharSet :=
  ⟨joinRanges (rs.mergeSort fun r s => decide (r.1 ≤ s.1))⟩

def empty : CharSet := ⟨[]⟩

def range (lo hi : Nat) : CharSet := ⟨[(lo, hi)]⟩

def single (n : Nat) : CharSet := range n n

def univ : CharSet := range 0 top

def isEmpty (s : CharSet) : Bool := s.ranges.isEmpty

def isAscii (s : CharSet) : Bool := s.ranges.all fun r => decide (r.2 < 128)

def union (s t : CharSet) : CharSet := ofRanges (s.ranges ++ t.ranges)

def unionAll (ss : List CharSet) : CharSet := ofRanges (ss.flatMap ranges)

/-- The ranges left out by ascending ranges, from `lo` on. -/
def gaps (lo : Nat) : List (Nat × Nat) → List (Nat × Nat)
  | [] => if lo ≤ top then [(lo, top)] else []
  | (a, b) :: rest => if lo < a then (lo, a - 1) :: gaps (b + 1) rest else gaps (b + 1) rest

/-- What a range holds besides surrogates at its ends. Surrogates are no characters. -/
def clip? (r : Nat × Nat) : Option (Nat × Nat) :=
  let lo := if 0xD7FF < r.1 ∧ r.1 < 0xE000 then 0xE000 else r.1
  let hi := if 0xD7FF < r.2 ∧ r.2 < 0xE000 then 0xD7FF else r.2
  if lo ≤ hi then some (lo, hi) else none

/-- The characters outside a set. -/
def compl (s : CharSet) : CharSet := ⟨(gaps 0 s.ranges).filterMap clip?⟩

/-- The negation of a set in a pattern: the characters outside. Where one range ends in front of
the surrogates and the next one begins behind them, these two neighbours belong to the negation. -/
def negate (s : CharSet) : CharSet :=
  if s.ranges.any (·.2 == 0xD7FF) && s.ranges.any (·.1 == 0xE000) then
    ofRanges ((0xD7FF, 0xE000) :: s.compl.ranges)
  else s.compl

def inter (s t : CharSet) : CharSet := (s.compl.union t.compl).compl

def diff (s t : CharSet) : CharSet := s.inter t.compl

def symmDiff (s t : CharSet) : CharSet := (s.union t).diff (s.inter t)

/-! ## Tables -/

/-- The value of a hexadecimal digit; any other character counts as nought. -/
def hexDigit (c : Char) : Nat :=
  if c.isDigit then c.toNat - '0'.toNat
  else if 'a' ≤ c ∧ c ≤ 'f' then c.toNat - 'a'.toNat + 10
  else 0

/-- The value of a run of hexadecimal digits. -/
def hexNat (cs : List Char) : Nat := cs.foldl (fun n c => n * 16 + hexDigit c) 0

/-- The points `lo`, `lo + 2`, … up to `hi`. -/
def everySecond (lo hi : Nat) : List (Nat × Nat) :=
  (List.range ((hi - lo) / 2 + 1)).map fun i => (lo + 2 * i, lo + 2 * i)

/-- The ranges that one entry of a table stands for. -/
def decodeEntry (entry : List Char) : List (Nat × Nat) :=
  let lo := entry.takeWhile (· != '-')
  match entry.dropWhile (· != '-') with
  | [] => [(hexNat lo, hexNat lo)]
  | _ :: rest =>
    let hi := hexNat (rest.takeWhile (· != '/'))
    if rest.contains '/' then everySecond (hexNat lo) hi else [(hexNat lo, hi)]

/-- The entries of a table, with spaces and line ends between them. -/
def entries (cs : List Char) : List (List Char) :=
  (cs.foldr (fun c acc =>
    if c == ' ' || c == '\n' then [] :: acc
    else match acc with
      | [] => [[c]]
      | w :: ws => (c :: w) :: ws) [[]]).filter (!·.isEmpty)

def decode (table : String) : CharSet := ofRanges ((entries table.toList).flatMap decodeEntry)

/-! ## Laws -/

@[simp] theorem contains_empty (c : Char) : empty.contains c = false := rfl

@[simp] theorem memCode_range (lo hi n : Nat) :
    (range lo hi).memCode n = decide (lo ≤ n ∧ n ≤ hi) := by
  by_cases h : n < lo <;> by_cases h' : n ≤ hi <;> simp [range, memCode, memRanges, *]
  omega

@[simp] theorem memCode_single (m n : Nat) : (single m).memCode n = decide (n = m) := by
  simp only [single, memCode_range, decide_eq_decide]; omega

end CharSet

end TagEdit.Unicode
