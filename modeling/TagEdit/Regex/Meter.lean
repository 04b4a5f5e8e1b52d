import TagEdit.Regex.Node
import TagEdit.Unicode.Spans

/-!
# Automata under construction

Measures what an automaton over bytes takes up while it is built. A state takes
up a fixed room, and a list of transitions or alternatives some more for every
entry. Only the count of states and the room of the lists are kept: the number
of a new state is the count of those before it.

The states of a set beyond ASCII are shared where their descriptions are equal.
Whether an equal description is found depends on the numbers of states, because
the memory for descriptions has a fixed number of places.
-/

namespace TagEdit.Regex

open Unicode

/-- The order in which an automaton reads a text. -/
inductive Direction where
  | forward
  | backward
  deriving DecidableEq, Repr

/-- What an automaton under construction takes up. -/
structure Meter where
  /-- How many bytes there may be. -/
  limit : Nat
  states : Nat := 0
  /-- The bytes of the lists of transitions and alternatives. -/
  lists : Nat := 0
  deriving DecidableEq, Repr

def Meter.bytes (m : Meter) : Nat := 32 * m.states + m.lists

/-- Adds states and bytes of lists, within the limit. -/
def Meter.add? (m : Meter) (states lists : Nat) : Option Meter :=
  let m := { m with states := m.states + states, lists := m.lists + lists }
  if m.bytes ≤ m.limit then some m else none

structure Built where
  meter : Meter
  /-- Whether it ends in a fork, whose list grows by what follows. -/
  forked : Bool := false
  deriving DecidableEq, Repr

namespace Built

/-- The bytes by which the end grows when something follows. -/
def link (b : Built) : Nat := if b.forked then 4 else 0

/-- Goes on with the next part. -/
def follow? (b : Built) (next : Meter → Option Built) : Option Built :=
  (b.meter.add? 0 b.link).bind next

/-- Goes on with single states, and with bytes of lists besides the link to them. -/
def close? (b : Built) (states lists : Nat) (forked : Bool) : Option Built :=
  (b.meter.add? states (lists + b.link)).map (⟨·, forked⟩)

/-- Goes on with a number of equal parts. -/
def copies? (part : Meter → Option Built) : Nat → Built → Option Built
  | 0, b => some b
  | n + 1, b =>
    match b.follow? part with
    | none => none
    | some c => copies? part n c

end Built

/-! ## Memory for states -/

/-- A memory for states under the numbers that describe them. Of the states that belong in one
place it holds the last one. -/
structure Memo where
  places : Nat
  /-- Entries of a place, a description and a state, spread over sixty-four lists. -/
  lists : Array (List (Nat × List Nat × Nat)) := Array.replicate 64 []

namespace Memo

/-- A description mixed into one number of 64 bits. -/
def mix (key : List Nat) : UInt64 :=
  key.foldl (fun h n => (h ^^^ n.toUInt64) * 1099511628211) 14695981039346656037

def place (m : Memo) (key : List Nat) : Nat := (mix key).toNat % m.places

def entries (m : Memo) (place : Nat) : List (Nat × List Nat × Nat) :=
  m.lists.getD (place % 64) []

/-- The state that is held for a description. -/
def find? (m : Memo) (key : List Nat) : Option Nat :=
  let p := m.place key
  match (m.entries p).find? (·.1 == p) with
  | some (_, k, state) => if k == key then some state else none
  | none => none

def insert (m : Memo) (key : List Nat) (state : Nat) : Memo :=
  let p := m.place key
  let others := (m.entries p).filter (·.1 != p)
  { m with lists := m.lists.setIfInBounds (p % 64) ((p, key, state) :: others) }

end Memo

/-! ## Sets -/

/-- A set of characters under construction. -/
structure Sharing where
  meter : Meter
  memo : Memo

namespace Sharing

/-- The state of a description, which is added if it is not held. -/
def state? (b : Sharing) (key : List Nat) (lists : Nat) : Option (Nat × Sharing) :=
  match b.memo.find? key with
  | some s => some (s, b)
  | none => do
    let m ← b.meter.add? 1 lists
    return (b.meter.states, ⟨m, b.memo.insert key b.meter.states⟩)

/-- Sequences by their first ranges: neighbours with the same one are put together. -/
def groupHeads (seqs : List Spans) : List (ByteRange × List Spans) :=
  seqs.foldr (fun seq groups =>
    match seq, groups with
    | [], _ => groups
    | r :: rest, (r', tails) :: others =>
      if r = r' then (r, rest :: tails) :: others else (r, [rest]) :: groups
    | r :: rest, [] => [(r, [rest])]) []

/-- The state from which ascending sequences are read on to `target`. The states for the last
bytes are built first; a state is described by its transitions. -/
def forward? (target : Nat) : (depth : Nat) → List Spans → Sharing → Option (Nat × Sharing)
  | 0, _, b => some (target, b)
  | depth + 1, seqs, b =>
    if seqs.all (·.isEmpty) then some (target, b)
    else
      let groups := groupHeads seqs
      let built := groups.foldlM (fun (keyed : List Nat × Sharing) g =>
        (forward? target depth g.2 keyed.2).map fun r =>
          (r.1 :: g.1.hi :: g.1.lo :: keyed.1, r.2)) ([], b)
      built.bind fun keyed => keyed.2.state? keyed.1.reverse (8 * groups.length)

/-- The state from which a sequence is read on to `target`, its last byte first. A state is
described by its one transition. -/
def backward? (target : Nat) (seq : Spans) (b : Sharing) : Option (Nat × Sharing) :=
  seq.foldlM (fun (reached : Nat × Sharing) r => reached.2.state? [reached.1, r.lo, r.hi] 0)
    (target, b)

def link? (b : Sharing) : Option Sharing := (b.meter.add? 0 4).map fun m => { b with meter := m }

end Sharing

/-- Builds a set: forwards as a tree of states with their transitions in lists, backwards as a fork
into one chain of states for each sequence. A set within ASCII is one state in both directions. -/
def buildSet? (d : Direction) (s : CharSet) (m : Meter) : Option Meter :=
  if s.isAscii then m.add? 2 (8 * s.ranges.length)
  else
    match d with
    | .forward => do
      let front ← m.add? 1 0
      let b ← Sharing.forward? m.states 4 (Spans.ofSet s) ⟨front, { places := 10000 }⟩
      return b.2.meter
    | .backward => do
      let b ← (Spans.ofSet s).foldlM (fun b seq =>
        (Sharing.backward? (m.states + 1) seq b).bind fun r => r.2.link?)
        (⟨← m.add? 2 0, { places := 1000 }⟩ : Sharing)
      return b.meter

end TagEdit.Regex
